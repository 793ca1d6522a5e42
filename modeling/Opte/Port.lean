import Opte.Layer

/-!
The port's layers and the rule operations the router calls on them, modelled from the spec:
the port lies outside the modelled sources. A layer holds a rule table and a default action
for each direction; the operations find their layer by name. Run through these operations,
the router's `replace` leaves a router layer that sends every outbound packet by the
longest destination prefix holding it, and drops what no entry holds; and over every run of
router administration the layer `setup` adds keeps holding only router rules and denying
what none of them takes, and keeps letting every inbound packet through.
-/

namespace Opte

/-- Modelled from the spec: a layer of the port, with its rules and default action for each
direction; its flow tables are left out. -/
structure Layer where
  name : String
  inRules : RuleTable
  outRules : RuleTable
  defaultIn : Action
  defaultOut : Action

def Layer.rules (layer : Layer) : Direction → RuleTable
  | .in => layer.inRules
  | .out => layer.outRules

def Layer.withRules (layer : Layer) : Direction → RuleTable → Layer
  | .in, table => { layer with inRules := table }
  | .out, table => { layer with outRules := table }

/-- Modelled from the spec: a layer's action on a packet is its first matching rule's, or
the direction's default. -/
def Layer.evaluate (layer : Layer) (dir : Direction) (meta : PacketMeta) : Action :=
  match (layer.rules dir).firstMatch meta with
  | some entry => entry.rule.action
  | none =>
      match dir with
      | .in => layer.defaultIn
      | .out => layer.defaultOut

def findLayer (layers : List Layer) (name : String) : Option Layer :=
  layers.find? (·.name = name)

def updateLayer (change : Layer → Layer) (name : String) : List Layer → List Layer
  | [] => []
  | layer :: rest =>
      if layer.name = name then change layer :: rest else layer :: updateLayer change name rest

/-- Modelled from the spec: the rule operations of a port whose state is its layers. -/
def portOps : PortOps (List Layer) where
  addRule := fun layers name dir rule =>
    match findLayer layers name with
    | none => (.error (.layerNotFound name), layers)
    | some _ =>
        (.ok (), updateLayer (fun layer => layer.withRules dir ((layer.rules dir).add rule))
          name layers)
  findRule := fun layers name dir rule =>
    match findLayer layers name with
    | none => .error (.layerNotFound name)
    | some layer => .ok ((layer.rules dir).find rule)
  removeRule := fun layers name dir id =>
    match findLayer layers name with
    | none => (.error (.layerNotFound name), layers)
    | some layer =>
        match (layer.rules dir).remove id with
        | none => (.error (.ruleNotFound id), layers)
        | some table => (.ok (), updateLayer (·.withRules dir table) name layers)
  setRules := fun layers name inRules outRules =>
    match findLayer layers name with
    | none => (.error (.layerNotFound name), layers)
    | some _ =>
        (.ok (), updateLayer (fun layer => { layer with
          inRules := layer.inRules.set inRules, outRules := layer.outRules.set outRules })
          name layers)

theorem findLayer_updateLayer {change : Layer → Layer} {name : String}
    (keepsName : ∀ layer, (change layer).name = layer.name) :
    ∀ layers : List Layer,
      findLayer (updateLayer change name layers) name = (findLayer layers name).map change
  | [] => rfl
  | layer :: rest => by
      unfold updateLayer
      by_cases named : layer.name = name
      · simp [findLayer, named, keepsName]
      · simpa [findLayer, named] using findLayer_updateLayer keepsName rest

/-- After a `replace` of valid router entries on a port with a router layer, the port's
router layer routes outbound packets by the longest matching prefix, and drops by its
default those that no entry holds. -/
theorem replace_routesByLongestPrefix (targetText : RouterTarget → String)
    (layers : List Layer) (router : Layer) (found : findLayer layers routerLayerName = some router)
    (entries : List (IpCidr × RouterTarget))
    (valid : ∀ entry ∈ entries, validRouterDestTargetPair entry.1 entry.2 = true) :
    (replace portOps targetText layers entries).result = .ok () ∧
    ∃ router', findLayer (replace portOps targetText layers entries).port routerLayerName =
        some router' ∧
      RoutesByLongestPrefix targetText entries router'.outRules ∧
      ∀ meta, router'.outRules.firstMatch meta = none →
        router'.evaluate .out meta = router.defaultOut := by
  have allowed : ∀ entry ∈ entries, RoutingTableAllows entry.1 entry.2 := fun entry member =>
    (validRouterDestTargetPair_iff _ _).mp (valid entry member)
  obtain ⟨rules, loop, built⟩ := makeRules_allowed targetText entries [] allowed
  simp only [List.nil_append] at loop
  have set : ∀ port : List Layer, replace portOps targetText port entries =
      ⟨(portOps.setRules port routerLayerName [] rules).1, [.setRules routerLayerName [] rules],
        (portOps.setRules port routerLayerName [] rules).2⟩ := fun port => by
    simp [replace, loop]
  rw [set]
  simp only [portOps, found]
  refine ⟨trivial, ⟨router.name, router.inRules.set [], router.outRules.set rules,
    router.defaultIn, router.defaultOut⟩, ?_, set_routesByLongestPrefix targetText _ built,
    fun meta noMatch => ?_⟩
  · rw [findLayer_updateLayer, found]
    · rfl
    · intro
      rfl
  · simp [Layer.evaluate, Layer.rules, noMatch]

def setup : Layer :=
  ⟨routerLayerName, .cleared 0, .cleared 0, .allow, .deny⟩

def routerPort : List Layer :=
  [setup]

def guestRoutes : List (IpCidr × RouterTarget) :=
  [(.ip4 ⟨⟨0x0a000000⟩, ⟨24, by decide⟩, by decide⟩, .vpcSubnet (.ip4 ⟨⟨0x0a000000⟩, ⟨24, by decide⟩, by decide⟩)),
    (.ip4 ⟨⟨0⟩, ⟨0, by decide⟩, by decide⟩, .internetGateway)]

theorem replace_routesByLongestPrefix_guestRoutes :
    (replace portOps (fun _ => "") routerPort guestRoutes).result = .ok () ∧
    ∃ router', findLayer (replace portOps (fun _ => "") routerPort guestRoutes).port
        routerLayerName = some router' ∧
      RoutesByLongestPrefix (fun _ => "") guestRoutes router'.outRules ∧
      ∀ meta, router'.outRules.firstMatch meta = none → router'.evaluate .out meta = .deny :=
  replace_routesByLongestPrefix _ routerPort _ rfl guestRoutes (by decide)

/-! ### Router administration over whole runs -/

def InstalledByRouter (targetText : RouterTarget → String) (table : RuleTable) : Prop :=
  ∀ entry ∈ table.entries, ∃ dest target, makeRule targetText dest target = .ok entry.rule

theorem InstalledByRouter.add {targetText : RouterTarget → String} {table : RuleTable}
    (installed : InstalledByRouter targetText table) {dest : IpCidr} {target : RouterTarget}
    {rule : Rule} (built : makeRule targetText dest target = .ok rule) :
    InstalledByRouter targetText (table.add rule) := fun entry member => by
  rcases List.mem_cons.mp ((insertRule_perm _ _).mem_iff.mp member) with rfl | old
  · exact ⟨dest, target, built⟩
  · exact installed entry old

theorem InstalledByRouter.remove {targetText : RouterTarget → String} {table table' : RuleTable}
    (installed : InstalledByRouter targetText table) {id : RuleId}
    (removed : table.remove id = some table') : InstalledByRouter targetText table' := by
  unfold RuleTable.remove at removed
  split at removed
  · cases removed
    exact fun entry member => installed entry (List.mem_of_mem_filter member)
  · cases removed

theorem installedByRouter_set {targetText : RouterTarget → String} (table : RuleTable)
    {rules : List Rule} (built : ∀ rule ∈ rules, ∃ dest target,
      makeRule targetText dest target = .ok rule) :
    InstalledByRouter targetText (table.set rules) := fun entry member =>
  built entry.rule ((table.set_rules rules).mem_iff.mp (List.mem_map_of_mem _ member))

def RouterLayerInstalled (targetText : RouterTarget → String) (layers : List Layer) : Prop :=
  ∀ router, findLayer layers routerLayerName = some router →
    InstalledByRouter targetText router.outRules ∧ router.defaultOut = .deny

theorem Layer.withRules_name (layer : Layer) (dir : Direction) (table : RuleTable) :
    (layer.withRules dir table).name = layer.name := by
  cases dir <;> rfl

theorem Layer.withRules_defaultOut (layer : Layer) (dir : Direction) (table : RuleTable) :
    (layer.withRules dir table).defaultOut = layer.defaultOut := by
  cases dir <;> rfl

theorem routerLayerInstalled_update {targetText : RouterTarget → String} {layers : List Layer}
    (installed : RouterLayerInstalled targetText layers) {change : Layer → Layer}
    (keepsName : ∀ layer, (change layer).name = layer.name)
    (keepsDefault : ∀ layer, (change layer).defaultOut = layer.defaultOut)
    (keeps : ∀ router, findLayer layers routerLayerName = some router →
      InstalledByRouter targetText router.outRules →
      InstalledByRouter targetText (change router).outRules) :
    RouterLayerInstalled targetText (updateLayer change routerLayerName layers) := by
  intro router' found'
  rw [findLayer_updateLayer keepsName] at found'
  obtain ⟨router, found, rfl⟩ := Option.map_eq_some'.mp found'
  obtain ⟨rules, denies⟩ := installed router found
  exact ⟨keeps router found rules, (keepsDefault router).trans denies⟩

def RouterLayerPassesIn (layers : List Layer) : Prop :=
  ∃ router, findLayer layers routerLayerName = some router ∧
    router.inRules.entries = [] ∧ router.defaultIn = .allow

theorem routerLayerPassesIn_update {layers : List Layer} (passes : RouterLayerPassesIn layers)
    {change : Layer → Layer} (keepsName : ∀ layer, (change layer).name = layer.name)
    (keepsDefault : ∀ layer, (change layer).defaultIn = layer.defaultIn)
    (noneIn : ∀ layer, layer.inRules.entries = [] → (change layer).inRules.entries = []) :
    RouterLayerPassesIn (updateLayer change routerLayerName layers) := by
  obtain ⟨router, found, empty, allows⟩ := passes
  refine ⟨change router, ?_, noneIn router empty, (keepsDefault router).trans allows⟩
  rw [findLayer_updateLayer keepsName, found]
  rfl

section Run

variable (targetText : RouterTarget → String)

inductive RouterCmd
  | addEntry (dest : IpCidr) (target : RouterTarget)
  | delEntry (dest : IpCidr) (target : RouterTarget)
  | replace (entries : List (IpCidr × RouterTarget))

def RouterCmd.run (layers : List Layer) : RouterCmd → List Layer
  | .addEntry dest target => (Opte.addEntry portOps targetText layers dest target).port
  | .delEntry dest target => (Opte.delEntry portOps targetText layers dest target).port
  | .replace entries => (Opte.replace portOps targetText layers entries).port

def runRouterCmds (layers : List Layer) (cmds : List RouterCmd) : List Layer :=
  cmds.foldl (RouterCmd.run targetText) layers

theorem RouterCmd.run_installed {layers : List Layer}
    (installed : RouterLayerInstalled targetText layers) :
    ∀ cmd : RouterCmd, RouterLayerInstalled targetText (cmd.run targetText layers)
  | .addEntry dest target => by
      simp only [RouterCmd.run, Opte.addEntry]
      split
      · exact installed
      · rename_i rule built
        simp only [portOps]
        split
        · exact installed
        · exact routerLayerInstalled_update installed (fun _ => Layer.withRules_name _ _ _)
            (fun _ => Layer.withRules_defaultOut _ _ _) fun _ _ rules => rules.add built
  | .delEntry dest target => by
      simp only [RouterCmd.run, Opte.delEntry]
      split
      · exact installed
      · split
        · exact installed
        · exact installed
        · simp only [portOps]
          split
          · exact installed
          · rename_i layer found
            split
            · exact installed
            · rename_i table removed
              refine routerLayerInstalled_update installed (fun _ => Layer.withRules_name _ _ _)
                (fun _ => Layer.withRules_defaultOut _ _ _) fun router found' rules => ?_
              cases found.symm.trans found'
              exact rules.remove removed
  | .replace entries => by
      simp only [RouterCmd.run, Opte.replace]
      split
      · exact installed
      · rename_i rules loop
        simp only [portOps]
        split
        · exact installed
        · refine routerLayerInstalled_update installed (fun _ => rfl) (fun _ => rfl)
            fun _ _ _ => installedByRouter_set _ ?_
          intro rule member
          rcases makeRules_built targetText entries [] rules loop rule member with none | built
          · cases none
          · exact built

theorem runRouterCmds_installed {layers : List Layer}
    (installed : RouterLayerInstalled targetText layers) (cmds : List RouterCmd) :
    RouterLayerInstalled targetText (runRouterCmds targetText layers cmds) := by
  induction cmds generalizing layers with
  | nil => exact installed
  | cons cmd cmds ih => exact ih (RouterCmd.run_installed targetText installed cmd)

theorem RouterCmd.run_passesIn {layers : List Layer} (passes : RouterLayerPassesIn layers)
    (cmd : RouterCmd) : RouterLayerPassesIn (cmd.run targetText layers) := by
  cases cmd with
  | addEntry dest target =>
      rcases addEntry_port portOps targetText layers dest target with same | ⟨rule, added⟩
      · rwa [RouterCmd.run, same]
      · rw [RouterCmd.run, added]
        simp only [portOps]
        split
        · exact passes
        · exact routerLayerPassesIn_update passes (fun _ => Layer.withRules_name _ _ _)
            (fun _ => rfl) fun _ empty => empty
  | delEntry dest target =>
      rcases delEntry_port portOps targetText layers dest target with same | ⟨id, removed⟩
      · rwa [RouterCmd.run, same]
      · rw [RouterCmd.run, removed]
        simp only [portOps]
        split
        · exact passes
        · split
          · exact passes
          · exact routerLayerPassesIn_update passes (fun _ => Layer.withRules_name _ _ _)
              (fun _ => rfl) fun _ empty => empty
  | replace entries =>
      rcases replace_port portOps targetText layers entries with same | ⟨rules, set⟩
      · rwa [RouterCmd.run, same]
      · rw [RouterCmd.run, set]
        simp only [portOps]
        split
        · exact passes
        · exact routerLayerPassesIn_update passes (fun _ => rfl) (fun _ => rfl) fun _ _ => rfl

theorem runRouterCmds_passesIn {layers : List Layer} (passes : RouterLayerPassesIn layers)
    (cmds : List RouterCmd) : RouterLayerPassesIn (runRouterCmds targetText layers cmds) := by
  induction cmds generalizing layers with
  | nil => exact passes
  | cons cmd cmds ih => exact ih (RouterCmd.run_passesIn targetText passes cmd)

end Run

/-- Whatever router administration runs on a port whose router layer holds only router
rules, the router layer keeps holding only rules `make_rule` built, and so sends every
outbound packet it matches by a rule whose destination holds the packet's inner destination
with the longest prefix among the installed rules holding it. -/
theorem routerCmds_routeByLongestPrefix (targetText : RouterTarget → String)
    (layers : List Layer) (start : RouterLayerInstalled targetText layers)
    (cmds : List RouterCmd) (router : Layer)
    (found : findLayer (runRouterCmds targetText layers cmds) routerLayerName = some router) :
    (∀ entry ∈ router.outRules.entries, ∃ dest target,
      makeRule targetText dest target = .ok entry.rule) ∧
    ∀ (meta : PacketMeta) (first : RuleEntry), router.outRules.firstMatch meta = some first →
      ∃ dest target, makeRule targetText dest target = .ok first.rule ∧
        ∃ addr, meta.innerDst = some addr ∧ dest.isMember addr ∧
        ∀ other ∈ router.outRules.entries, ∀ otherDest otherTarget,
          makeRule targetText otherDest otherTarget = .ok other.rule →
          otherDest.isMember addr → otherDest.prefixLen ≤ dest.prefixLen := by
  have installed := (runRouterCmds_installed targetText start cmds router found).1
  refine ⟨installed, fun meta first matched => ?_⟩
  obtain ⟨dest, target, built⟩ := installed first (List.mem_of_find?_eq_some matched)
  exact ⟨dest, target, built, firstMatch_longestPrefix matched built⟩

/-- Whatever router administration runs on a port whose router layer is installed, an
outbound packet whose inner destination no installed router rule's destination holds is
denied by the router layer. -/
theorem routerCmds_denyUnrouted (targetText : RouterTarget → String)
    (layers : List Layer) (start : RouterLayerInstalled targetText layers)
    (cmds : List RouterCmd) (router : Layer)
    (found : findLayer (runRouterCmds targetText layers cmds) routerLayerName = some router)
    (meta : PacketMeta)
    (unrouted : ∀ entry ∈ router.outRules.entries, ∃ dest target,
      makeRule targetText dest target = .ok entry.rule ∧
      ∀ addr, meta.innerDst = some addr → dest.isMember addr = false) :
    router.evaluate .out meta = .deny := by
  have noMatch : router.outRules.firstMatch meta = none :=
    List.find?_eq_none.mpr fun entry member entryMatches => by
      obtain ⟨dest, target, built, outside⟩ := unrouted entry member
      obtain ⟨addr, dst, holds⟩ := (makeRule_isMatch built meta).mp entryMatches
      simp [outside addr dst] at holds
  simp [Layer.evaluate, Layer.rules, noMatch,
    (runRouterCmds_installed targetText start cmds router found).2]

theorem routerPort_installed (targetText : RouterTarget → String) :
    RouterLayerInstalled targetText routerPort := fun _ found => by
  cases found
  exact ⟨fun _ member => (by cases member), rfl⟩

/-- The router layer never stops an inbound packet: whatever router administration runs on
the port `setup` builds, the router layer holds no inbound rule and allows every inbound
packet. -/
theorem routerCmds_allowInbound (targetText : RouterTarget → String) (cmds : List RouterCmd) :
    ∃ router, findLayer (runRouterCmds targetText routerPort cmds) routerLayerName = some router ∧
      router.inRules.entries = [] ∧ ∀ meta, router.evaluate .in meta = .allow := by
  obtain ⟨router, found, empty, allows⟩ :=
    runRouterCmds_passesIn targetText (⟨setup, rfl, rfl, rfl⟩ : RouterLayerPassesIn routerPort) cmds
  refine ⟨router, found, empty, fun meta => ?_⟩
  simp [Layer.evaluate, Layer.rules, RuleTable.firstMatch, empty, allows]

def guestPacket : PacketMeta :=
  { inner := { ip := some (.ip4 ⟨⟨0x0a000005⟩, ⟨0x0a000007⟩, .tcp⟩) } }

def guestRouterCmds : List RouterCmd :=
  [.replace guestRoutes, .addEntry (.ip4 ⟨⟨0x0a000000⟩, ⟨28, by decide⟩, by decide⟩) .drop]

theorem routerCmds_routeByLongestPrefix_guestPacket :
    ∃ router first,
      findLayer (runRouterCmds (fun _ => "") routerPort guestRouterCmds) routerLayerName =
        some router ∧
      router.outRules.firstMatch guestPacket = some first ∧
      (∀ entry ∈ router.outRules.entries, ∃ dest target,
        makeRule (fun _ => "") dest target = .ok entry.rule) ∧
      ∃ dest target, makeRule (fun _ => "") dest target = .ok first.rule ∧
        ∃ addr, guestPacket.innerDst = some addr ∧ dest.isMember addr ∧
          ∀ other ∈ router.outRules.entries, ∀ otherDest otherTarget,
            makeRule (fun _ => "") otherDest otherTarget = .ok other.rule →
            otherDest.isMember addr → otherDest.prefixLen ≤ dest.prefixLen :=
  ⟨_, _, rfl, rfl,
    (routerCmds_routeByLongestPrefix (fun _ => "") routerPort (routerPort_installed _)
      guestRouterCmds _ rfl).1,
    (routerCmds_routeByLongestPrefix (fun _ => "") routerPort (routerPort_installed _)
      guestRouterCmds _ rfl).2 guestPacket _ rfl⟩

def internetPacket : PacketMeta :=
  { inner := { ip := some (.ip4 ⟨⟨0x0a000005⟩, ⟨0x08080808⟩, .tcp⟩) } }

def noDefaultRouteCmds : List RouterCmd :=
  [.replace guestRoutes, .delEntry (.ip4 ⟨⟨0⟩, ⟨0, by decide⟩, by decide⟩) .internetGateway]

theorem routerCmds_denyUnrouted_internetPacket :
    ∃ router,
      findLayer (runRouterCmds (fun _ => "") routerPort noDefaultRouteCmds) routerLayerName =
        some router ∧
      router.evaluate .out internetPacket = .deny := by
  refine ⟨_, rfl, routerCmds_denyUnrouted (fun _ => "") routerPort (routerPort_installed _)
    noDefaultRouteCmds _ rfl internetPacket ?_⟩
  intro entry member
  rcases member with _ | ⟨_, ⟨⟩⟩
  exact ⟨.ip4 ⟨⟨0x0a000000⟩, ⟨24, by decide⟩, by decide⟩, .vpcSubnet (.ip4 ⟨⟨0x0a000000⟩, ⟨24, by decide⟩, by decide⟩),
    rfl, fun addr dst => by cases dst; rfl⟩

end Opte
