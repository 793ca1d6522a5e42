import Opte.RouterTable

/-!
That the port's router layer routes exactly as the routing table. Listed by id, the router
layer's outbound rules are the rules `make_rule` builds for the table's entries, in the
table's order: `add_rule` gives a new rule the next id, `find_rule` meets first in evaluation
order the copy of a rule of least id, which `remove_rule` then takes, and `set_rules`
numbers the new rules in list order. Every router command keeps this, and evaluation in
(priority, id) order then takes, for every packet, the rule of the route `routeLookup`
gives it: the longest prefix holding its destination, and of equal prefixes the entry added
first.
-/

namespace Opte

section Find

variable {α β : Type}

theorem find?_first_of_pairwise {R : α → α → Prop} {p : α → Bool} {x : α} {l : List α}
    (sorted : l.Pairwise R) (found : l.find? p = some x) : ∀ y ∈ l, p y → y = x ∨ R x y := by
  induction l with
  | nil => cases found
  | cons head rest ih =>
      intro y member taken
      by_cases headTaken : p head
      · rw [List.find?_cons_of_pos _ headTaken] at found
        cases found
        rcases List.mem_cons.mp member with rfl | later
        · exact .inl rfl
        · exact .inr (List.rel_of_pairwise_cons sorted later)
      · rw [List.find?_cons_of_neg _ headTaken] at found
        rcases List.mem_cons.mp member with rfl | later
        · exact absurd taken headTaken
        · exact ih sorted.of_cons found y later taken

theorem find?_eq_of_perm {R S : α → α → Prop} {p : α → Bool} {l l' : List α}
    (perm : l.Perm l') (sorted : l.Pairwise R) (sorted' : l'.Pairwise S)
    (agree : ∀ x ∈ l, ∀ y ∈ l, p x → p y → S x y → ¬ R y x) : l.find? p = l'.find? p := by
  rcases found : l.find? p with _ | x
  · exact (List.find?_eq_none.mpr fun y member =>
      List.find?_eq_none.mp found y (perm.mem_iff.mpr member)).symm
  · have member := List.mem_of_find?_eq_some found
    have taken := List.find?_some found
    obtain ⟨y, found'⟩ := Option.isSome_iff_exists.mp
      (List.find?_isSome.mpr ⟨x, perm.mem_iff.mp member, taken⟩)
    have member' := perm.mem_iff.mpr (List.mem_of_find?_eq_some found')
    have taken' := List.find?_some found'
    rw [found']
    rcases find?_first_of_pairwise sorted' found' x (perm.mem_iff.mp member) taken with same | before
    · rw [same]
    · rcases find?_first_of_pairwise sorted found y member' taken' with same | after
      · rw [same]
      · exact absurd after (agree y member' x member taken' taken before)

theorem find?_eq_of_first {p q : α → Bool} {l : List α} (narrower : ∀ y ∈ l, q y → p y)
    (first : ∀ x, l.find? p = some x → q x) : l.find? q = l.find? p := by
  induction l with
  | nil => rfl
  | cons head rest ih =>
      by_cases taken : p head
      · rw [List.find?_cons_of_pos _ (first head (List.find?_cons_of_pos _ taken)),
          List.find?_cons_of_pos _ taken]
      · have skipped : ¬ q head = true := fun holds =>
          taken (narrower head (List.mem_cons_self _ _) holds)
        rw [List.find?_cons_of_neg _ skipped, List.find?_cons_of_neg _ taken]
        exact ih (fun y member => narrower y (List.mem_cons_of_mem _ member))
          fun x found => first x (by rwa [List.find?_cons_of_neg _ taken])

theorem forall₂_find? {R : α → β → Prop} {p : α → Bool} {q : β → Bool}
    (agree : ∀ a b, R a b → (p a = true ↔ q b = true)) {l : List α} {l' : List β}
    (related : List.Forall₂ R l l') : Option.Rel R (l.find? p) (l'.find? q) := by
  induction related with
  | nil => exact .none
  | @cons a b _ _ head _ ih =>
      by_cases taken : p a
      · rw [List.find?_cons_of_pos _ taken, List.find?_cons_of_pos _ ((agree a b head).mp taken)]
        exact .some head
      · rw [List.find?_cons_of_neg _ taken,
          List.find?_cons_of_neg _ (mt (agree a b head).mpr taken)]
        exact ih

theorem forall₂_all {R : α → β → Prop} {p : α → Bool} {q : β → Bool}
    (agree : ∀ a b, R a b → (p a = true ↔ q b = true)) {l : List α} {l' : List β}
    (related : List.Forall₂ R l l') : l.all p = true ↔ l'.all q = true := by
  induction related with
  | nil => exact Iff.rfl
  | @cons a b _ _ head _ ih => simp only [List.all_cons, Bool.and_eq_true, agree a b head, ih]

theorem forall₂_erase_eraseP [BEq α] [LawfulBEq α] {R : α → β → Prop} {x : α} {q : β → Bool}
    (agree : ∀ a b, R a b → (a = x ↔ q b = true)) {l : List α} {l' : List β}
    (related : List.Forall₂ R l l') : List.Forall₂ R (l.erase x) (l'.eraseP q) := by
  induction related with
  | nil => exact .nil
  | @cons a b _ _ head tail ih =>
      by_cases same : a = x
      · subst same
        rw [List.erase_cons_head, List.eraseP_cons_of_pos ((agree a b head).mp rfl)]
        exact tail
      · rw [List.erase_cons_tail (mt beq_iff_eq.mp same),
          List.eraseP_cons_of_neg (mt (agree a b head).mpr same)]
        exact .cons head ih

end Find

theorem makeRule_inj {targetText : RouterTarget → String} {dest dest' : IpCidr}
    {target target' : RouterTarget} {rule : Rule} (built : makeRule targetText dest target = .ok rule)
    (built' : makeRule targetText dest' target' = .ok rule) : (dest, target) = (dest', target') := by
  obtain ⟨-, rfl⟩ := makeRule_ok built
  obtain ⟨-, same⟩ := makeRule_ok built'
  simp only [Rule.mk.injEq, List.cons.injEq, and_true] at same
  obtain ⟨-, sameDest, sameTarget⟩ := same
  have dests : dest = dest' := by
    cases dest <;> cases dest' <;> cases sameDest <;> rfl
  have targets : target = target' := by
    cases target <;> cases target' <;> cases sameTarget <;> rfl
  rw [dests, targets]

theorem RuleTable.find_eq_none {table : RuleTable} {rule : Rule} :
    table.find rule = none ↔ rule ∉ table.entries.map (·.rule) := by
  simp [RuleTable.find, List.find?_eq_none]

theorem filter_id_eq_eraseP {p : RuleEntry → Bool} {entry : RuleEntry} {entries : List RuleEntry}
    (distinct : (entries.map (·.id)).Nodup) (found : entries.find? p = some entry) :
    entries.filter (·.id ≠ entry.id) = entries.eraseP p := by
  induction entries with
  | nil => cases found
  | cons first rest ih =>
      rw [List.map_cons, List.nodup_cons] at distinct
      by_cases taken : p first
      · rw [List.find?_cons_of_pos _ taken] at found
        cases found
        rw [List.eraseP_cons_of_pos taken, List.filter_cons_of_neg (by simp)]
        exact List.filter_eq_self.mpr fun other member => decide_eq_true fun same =>
          distinct.1 (by rw [← same]; exact List.mem_map_of_mem _ member)
      · rw [List.find?_cons_of_neg _ taken] at found
        have differ : first.id ≠ entry.id := fun same =>
          distinct.1 (by rw [same]; exact List.mem_map_of_mem _ (List.mem_of_find?_eq_some found))
        rw [List.eraseP_cons_of_neg taken, List.filter_cons_of_pos (by simpa using differ),
          ih distinct.2 found]

structure RulesInOrder (targetText : RouterTarget → String)
    (table : List (IpCidr × RouterTarget)) (rules : RuleTable) (ordered : List RuleEntry) :
    Prop where
  built : List.Forall₂ (fun entry installed =>
    makeRule targetText entry.1 entry.2 = .ok installed.rule) table ordered
  increasing : ordered.Pairwise fun first second => first.id < second.id
  perm : rules.entries.Perm ordered

section InOrder

variable {targetText : RouterTarget → String} {table : List (IpCidr × RouterTarget)}
  {rules : RuleTable} {ordered : List RuleEntry} {dest : IpCidr} {target : RouterTarget}
  {rule : Rule}

theorem RulesInOrder.add (inOrder : RulesInOrder targetText table rules ordered)
    (built : makeRule targetText dest target = .ok rule) :
    RulesInOrder targetText (table ++ [(dest, target)]) (rules.add rule)
      (ordered ++ [⟨rules.nextId, rule⟩]) where
  built := List.rel_append inOrder.built (.cons built .nil)
  increasing := List.pairwise_append.mpr ⟨inOrder.increasing, List.pairwise_singleton _ _,
    fun entry member _ newer => by
      obtain rfl := List.mem_singleton.mp newer
      exact rules.fresh entry (inOrder.perm.mem_iff.mpr member)⟩
  perm := (insertRule_perm _ _).trans
    ((inOrder.perm.cons _).trans (List.perm_append_singleton _ _).symm)

theorem RulesInOrder.not_mem_of_find (inOrder : RulesInOrder targetText table rules ordered)
    (built : makeRule targetText dest target = .ok rule) (missing : rules.find rule = none) :
    (dest, target) ∉ table := fun member => by
  obtain ⟨installed, installedMember, installedBuilt⟩ := forall₂_mem_left inOrder.built member
  cases Except.ok.inj (built.symm.trans installedBuilt)
  exact RuleTable.find_eq_none.mp missing
    (List.mem_map_of_mem _ (inOrder.perm.mem_iff.mpr installedMember))

theorem RulesInOrder.mem_of_find (inOrder : RulesInOrder targetText table rules ordered)
    (built : makeRule targetText dest target = .ok rule) {id : RuleId}
    (found : rules.find rule = some id) : (dest, target) ∈ table := by
  obtain ⟨entry, first, -⟩ := Option.map_eq_some'.mp found
  have sameRule : entry.rule = rule := by simpa using List.find?_some first
  obtain ⟨a, member, related⟩ :=
    forall₂_mem_right inOrder.built (inOrder.perm.mem_iff.mp (List.mem_of_find?_eq_some first))
  rw [sameRule] at related
  have same : a = (dest, target) := makeRule_inj related built
  exact same ▸ member

theorem RulesInOrder.remove (inOrder : RulesInOrder targetText table rules ordered)
    (built : makeRule targetText dest target = .ok rule) {id : RuleId}
    (found : rules.find rule = some id) :
    ∃ rules', rules.remove id = some rules' ∧
      RulesInOrder targetText (table.erase (dest, target)) rules'
        (ordered.eraseP (·.rule = rule)) := by
  obtain ⟨entry, first, rfl⟩ := Option.map_eq_some'.mp found
  have sameRule : ∀ x ∈ rules.entries, ∀ y ∈ rules.entries, decide (x.rule = rule) = true →
      decide (y.rule = rule) = true → x.id < y.id → ¬ y.Before x := by
    intro x _ y _ xRule yRule older before
    rw [decide_eq_true_eq] at xRule yRule
    rw [RuleEntry.Before, xRule, yRule] at before
    exact before.elim (Nat.lt_irrefl _) fun same => Nat.lt_asymm older same.2
  have firstInOrder : ordered.find? (·.rule = rule) = some entry :=
    (find?_eq_of_perm inOrder.perm rules.sorted inOrder.increasing sameRule).symm.trans first
  have distinct : (ordered.map (·.id)).Nodup :=
    List.pairwise_map.mpr (inOrder.increasing.imp Nat.ne_of_lt)
  have agree : ∀ (a : IpCidr × RouterTarget) (b : RuleEntry),
      makeRule targetText a.1 a.2 = .ok b.rule → (a = (dest, target) ↔ decide (b.rule = rule) = true) := by
    intro a b related
    rw [decide_eq_true_eq]
    constructor
    · rintro rfl
      exact Except.ok.inj (related.symm.trans built)
    · intro same
      rw [same] at related
      exact makeRule_inj related built
  rw [RuleTable.remove, if_pos (List.mem_map_of_mem _ (List.mem_of_find?_eq_some first))]
  refine ⟨_, rfl, forall₂_erase_eraseP agree inOrder.built,
    inOrder.increasing.sublist (List.eraseP_sublist _), ?_⟩
  rw [← filter_id_eq_eraseP distinct firstInOrder]
  exact inOrder.perm.filter _

theorem foldl_add_inOrder (newRules : List Rule) : ∀ table : RuleTable,
    ∃ added : List RuleEntry, added.map (·.rule) = newRules ∧
      added.Pairwise (fun first second => first.id < second.id) ∧
      (∀ entry ∈ added, table.nextId ≤ entry.id) ∧
      (newRules.foldl RuleTable.add table).entries.Perm (table.entries ++ added) := by
  induction newRules with
  | nil => exact fun table => ⟨[], rfl, .nil, nofun, by simp⟩
  | cons rule rest ih =>
      intro table
      obtain ⟨added, named, increasing, later, perm⟩ := ih (table.add rule)
      refine ⟨⟨table.nextId, rule⟩ :: added, by simp [named], increasing.cons later, ?_,
        perm.trans (((insertRule_perm _ _).append_right added).trans List.perm_middle.symm)⟩
      rintro entry (_ | ⟨_, member⟩)
      · exact le_refl _
      · exact Nat.le_of_succ_le (later entry member)

theorem RulesInOrder.set {entries : List (IpCidr × RouterTarget)} {newRules : List Rule}
    (built : List.Forall₂ (fun entry rule => makeRule targetText entry.1 entry.2 = .ok rule)
      entries newRules) (rules : RuleTable) :
    ∃ ordered, RulesInOrder targetText entries (rules.set newRules) ordered := by
  obtain ⟨added, rfl, increasing, -, perm⟩ :=
    foldl_add_inOrder newRules (RuleTable.cleared rules.nextId)
  have built := List.forall₂_map_right_iff.mp built
  exact ⟨added, built, increasing, perm⟩

theorem makeRule_priority (built : makeRule targetText dest target = .ok rule) :
    rule.priority = prefixLenToPriority dest := by
  rw [(makeRule_ok built).2]

def lowestMatch (ordered : List RuleEntry) (meta : PacketMeta) (entry : RuleEntry) : Bool :=
  entry.rule.isMatch meta && ordered.all fun other =>
    !other.rule.isMatch meta || decide (entry.rule.priority.toNat ≤ other.rule.priority.toNat)

theorem lowestMatch_le {meta : PacketMeta} {entry other : RuleEntry}
    (lowest : lowestMatch ordered meta entry = true) (member : other ∈ ordered)
    (otherMatches : other.rule.isMatch meta = true) :
    entry.rule.priority.toNat ≤ other.rule.priority.toNat := by
  simpa [otherMatches] using List.all_eq_true.mp (Bool.and_eq_true_iff.mp lowest).2 other member

theorem RulesInOrder.firstMatch_eq (inOrder : RulesInOrder targetText table rules ordered)
    (meta : PacketMeta) : rules.firstMatch meta = ordered.find? (lowestMatch ordered meta) := by
  have lowestFirst : rules.entries.find? (lowestMatch ordered meta) = rules.firstMatch meta :=
    find?_eq_of_first (fun _ _ lowest => (Bool.and_eq_true_iff.mp lowest).1) fun x found => by
      have xMatches := List.find?_some found
      refine Bool.and_eq_true_iff.mpr ⟨xMatches, List.all_eq_true.mpr fun other member => ?_⟩
      by_cases otherMatches : other.rule.isMatch meta = true
      · rcases find?_first_of_pairwise rules.sorted found other (inOrder.perm.mem_iff.mpr member)
          otherMatches with rfl | before
        · simp
        · simp [before.priority_le]
      · simp [otherMatches]
  rw [← lowestFirst]
  refine find?_eq_of_perm inOrder.perm rules.sorted inOrder.increasing
    fun x xMember y yMember xLowest yLowest older before => ?_
  have xFirst := lowestMatch_le xLowest (inOrder.perm.mem_iff.mp yMember)
    (Bool.and_eq_true_iff.mp yLowest).1
  have yFirst := lowestMatch_le yLowest (inOrder.perm.mem_iff.mp xMember)
    (Bool.and_eq_true_iff.mp xLowest).1
  exact before.elim (fun lower => by omega) fun same => Nat.lt_asymm older same.2

theorem RulesInOrder.lookup_agree (inOrder : RulesInOrder targetText table rules ordered)
    {meta : PacketMeta} {addr : IpAddr} (dst : meta.innerDst = some addr)
    (a : IpCidr × RouterTarget) (b : RuleEntry) (related : makeRule targetText a.1 a.2 = .ok b.rule) :
    (a.1.isMember addr && table.all fun other =>
      !other.1.isMember addr || decide (other.1.prefixLen ≤ a.1.prefixLen)) = true ↔
      lowestMatch ordered meta b = true := by
  have holds : ∀ (a : IpCidr × RouterTarget) (b : RuleEntry),
      makeRule targetText a.1 a.2 = .ok b.rule → b.rule.isMatch meta = a.1.isMember addr :=
    fun a b related => Bool.eq_iff_iff.mpr (by rw [makeRule_isMatch related, dst]; simp)
  rw [lowestMatch, holds a b related, Bool.and_eq_true_iff, Bool.and_eq_true_iff]
  refine and_congr_right fun inA => forall₂_all (fun o ob oRelated => ?_) inOrder.built
  rw [holds o ob oRelated, makeRule_priority related, makeRule_priority oRelated]
  by_cases inO : o.1.isMember addr = true
  · simp [inO, priority_le_iff_prefixLen_le inA inO]
  · simp [inO]

theorem RulesInOrder.firstMatch_routeLookup (inOrder : RulesInOrder targetText table rules ordered)
    (meta : PacketMeta) :
    Option.Rel (fun entry first => makeRule targetText entry.1 entry.2 = .ok first.rule)
      (meta.innerDst.bind (routeLookup table)) (rules.firstMatch meta) := by
  rw [inOrder.firstMatch_eq]
  rcases dst : meta.innerDst with _ | addr
  · have unmatched : ordered.find? (lowestMatch ordered meta) = none :=
      List.find?_eq_none.mpr fun installed member lowest => by
        obtain ⟨a, -, related⟩ := forall₂_mem_right inOrder.built member
        obtain ⟨addr, found, -⟩ :=
          (makeRule_isMatch related meta).mp (Bool.and_eq_true_iff.mp lowest).1
        rw [dst] at found
        cases found
    rw [Option.none_bind, unmatched]
    exact .none
  · exact forall₂_find? (inOrder.lookup_agree dst) inOrder.built

end InOrder

def RouterLayerCarries (targetText : RouterTarget → String) (layers : List Layer)
    (table : List (IpCidr × RouterTarget)) : Prop :=
  ∃ router, findLayer layers routerLayerName = some router ∧ router.defaultOut = .deny ∧
    ∃ ordered, RulesInOrder targetText table router.outRules ordered

section Carries

variable {targetText : RouterTarget → String}

theorem routerLayerCarries_update {layers : List Layer} {router : Layer}
    (found : findLayer layers routerLayerName = some router) (denies : router.defaultOut = .deny)
    {change : Layer → Layer} (keepsName : ∀ layer, (change layer).name = layer.name)
    (keepsDefault : ∀ layer, (change layer).defaultOut = layer.defaultOut)
    {table : List (IpCidr × RouterTarget)} {ordered : List RuleEntry}
    (inOrder : RulesInOrder targetText table (change router).outRules ordered) :
    RouterLayerCarries targetText (updateLayer change routerLayerName layers) table :=
  ⟨change router, by rw [findLayer_updateLayer keepsName, found]; rfl,
    (keepsDefault router).trans denies, ordered, inOrder⟩

variable (targetText)

theorem replace_carries {layers : List Layer} {router : Layer}
    (found : findLayer layers routerLayerName = some router) (denies : router.defaultOut = .deny)
    {entries : List (IpCidr × RouterTarget)}
    (valid : ∀ entry ∈ entries, validRouterDestTargetPair entry.1 entry.2 = true) :
    RouterLayerCarries targetText (RouterCmd.run targetText layers (.replace entries)) entries := by
  obtain ⟨newRules, loop, pairs⟩ := makeRules_allowed targetText entries [] fun entry member =>
    (validRouterDestTargetPair_iff _ _).mp (valid entry member)
  simp only [RouterCmd.run, Opte.replace, loop, List.nil_append, portOps, found]
  obtain ⟨ordered, inOrder⟩ := RulesInOrder.set pairs router.outRules
  exact routerLayerCarries_update found denies (fun _ => by rfl) (fun _ => by rfl) inOrder

theorem RouterCmd.run_carries {layers : List Layer} {table : List (IpCidr × RouterTarget)}
    (carries : RouterLayerCarries targetText layers table) :
    ∀ cmd : RouterCmd, RouterLayerCarries targetText (cmd.run targetText layers) (cmd.apply table) := by
  have ⟨router, found, denies, ordered, inOrder⟩ := carries
  have valid_iff := fun dest target =>
    (validRouterDestTargetPair_iff dest target).trans (makeRule_isOk_iff targetText dest target).symm
  intro cmd
  cases cmd with
  | addEntry dest target =>
      simp only [RouterCmd.run, RouterCmd.apply, Opte.addEntry]
      by_cases valid : validRouterDestTargetPair dest target = true
      · obtain ⟨rule, built⟩ := (valid_iff dest target).mp valid
        simp only [built, valid, if_true, portOps, found]
        exact routerLayerCarries_update found denies (fun _ => Layer.withRules_name _ _ _)
          (fun _ => Layer.withRules_defaultOut _ _ _) (inOrder.add built)
      · have refused : makeRule targetText dest target = _ :=
          makeRule_error (mt (validRouterDestTargetPair_iff _ _).mpr valid)
        simp only [refused, valid, if_false, Bool.false_eq_true]
        exact carries
  | delEntry dest target =>
      simp only [RouterCmd.run, RouterCmd.apply, Opte.delEntry]
      by_cases valid : validRouterDestTargetPair dest target = true
      · obtain ⟨rule, built⟩ := (valid_iff dest target).mp valid
        simp only [built, valid, if_true, portOps, found, Layer.rules]
        rcases lookup : router.outRules.find rule with _ | id
        all_goals dsimp only
        · rw [List.erase_of_not_mem (inOrder.not_mem_of_find built lookup)]
          exact carries
        · obtain ⟨rules', removed, inOrder'⟩ := inOrder.remove built lookup
          simp only [removed]
          exact routerLayerCarries_update found denies (fun _ => Layer.withRules_name _ _ _)
            (fun _ => Layer.withRules_defaultOut _ _ _) inOrder'
      · have refused : makeRule targetText dest target = _ :=
          makeRule_error (mt (validRouterDestTargetPair_iff _ _).mpr valid)
        simp only [refused, valid, if_false, Bool.false_eq_true]
        exact carries
  | replace entries =>
      by_cases allValid : (entries.all fun entry => validRouterDestTargetPair entry.1 entry.2) = true
      · rw [RouterCmd.apply, if_pos allValid]
        exact replace_carries targetText found denies (List.all_eq_true.mp allValid)
      · rw [RouterCmd.apply, if_neg allValid]
        simp only [RouterCmd.run, Opte.replace]
        split
        · exact carries
        · rename_i loop
          exact absurd (List.all_eq_true.mpr fun entry member => (validRouterDestTargetPair_iff _ _).mpr
            (makeRules_ok_allowed targetText loop entry member)) allValid

theorem runRouterCmds_carries {layers : List Layer} {table : List (IpCidr × RouterTarget)}
    (carries : RouterLayerCarries targetText layers table) (cmds : List RouterCmd) :
    RouterLayerCarries targetText (runRouterCmds targetText layers cmds)
      (applyRouterCmds table cmds) := by
  induction cmds generalizing layers table with
  | nil => exact carries
  | cons cmd cmds ih => exact ih (RouterCmd.run_carries targetText carries cmd)

theorem routerPort_carries : RouterLayerCarries targetText routerPort [] :=
  ⟨setup, rfl, rfl, [], .nil, .nil, .nil⟩

variable {targetText}

theorem RouterLayerCarries.routes {layers : List Layer} {table : List (IpCidr × RouterTarget)}
    (carries : RouterLayerCarries targetText layers table) :
    ∃ router, findLayer layers routerLayerName = some router ∧ ∀ meta,
      Option.Rel (fun entry first => makeRule targetText entry.1 entry.2 = .ok first.rule)
        (meta.innerDst.bind (routeLookup table)) (router.outRules.firstMatch meta) ∧
      router.evaluate .out meta = routeAction table meta := by
  obtain ⟨router, found, denies, ordered, inOrder⟩ := carries
  refine ⟨router, found, fun meta => ⟨inOrder.firstMatch_routeLookup meta, ?_⟩⟩
  have routed := inOrder.firstMatch_routeLookup meta
  simp only [Layer.evaluate, Layer.rules, routeAction]
  revert routed
  generalize meta.innerDst.bind (routeLookup table) = route
  generalize router.outRules.firstMatch meta = first
  rintro (⟨built⟩ | _)
  · exact congrArg Rule.action (makeRule_ok built).2
  · exact denies

end Carries

/-- The router layer refines the routing table: over every run of router administration on
a port set up by `setup`, the router layer holds exactly the rules `make_rule` builds for the
entries of the table the run leaves, in some order, and so routes every outbound packet by
the longest prefix among those entries, and denies what none of them holds. -/
theorem routerCmds_refineRouteTable (targetText : RouterTarget → String)
    (cmds : List RouterCmd) :
    ∃ router,
      findLayer (runRouterCmds targetText routerPort cmds) routerLayerName = some router ∧
      (∃ rules, List.Forall₂ (fun entry rule => makeRule targetText entry.1 entry.2 = .ok rule)
          (applyRouterCmds [] cmds) rules ∧
        (router.outRules.entries.map (·.rule)).Perm rules) ∧
      RoutesByLongestPrefix targetText (applyRouterCmds [] cmds) router.outRules ∧
      ∀ meta, router.outRules.firstMatch meta = none → router.evaluate .out meta = .deny := by
  obtain ⟨router, found, denies, ordered, inOrder⟩ :=
    runRouterCmds_carries targetText (routerPort_carries targetText) cmds
  have built : List.Forall₂ (fun entry rule => makeRule targetText entry.1 entry.2 = .ok rule)
      (applyRouterCmds [] cmds) (ordered.map (·.rule)) :=
    List.forall₂_map_right_iff.mpr inOrder.built
  have holds := inOrder.perm.map (·.rule)
  refine ⟨router, found, ⟨_, built, holds⟩, routesByLongestPrefix_of_perm built holds,
    fun meta noMatch => ?_⟩
  simp [Layer.evaluate, Layer.rules, noMatch, denies]

/-- The router layer routes exactly as the routing table: over every run of router
administration on a port set up by `setup`, the first outbound rule a packet matches is the
rule of the route `routeLookup` gives its inner destination in the table the run leaves (of
the entries holding it, the first of longest prefix), and the router layer acts on the packet
as that route's target says, denying it when no entry holds its destination. -/
theorem routerCmds_routeLookup (targetText : RouterTarget → String) (cmds : List RouterCmd) :
    ∃ router, findLayer (runRouterCmds targetText routerPort cmds) routerLayerName = some router ∧
      ∀ meta, Option.Rel (fun entry first => makeRule targetText entry.1 entry.2 = .ok first.rule)
          (meta.innerDst.bind (routeLookup (applyRouterCmds [] cmds)))
          (router.outRules.firstMatch meta) ∧
        router.evaluate .out meta = routeAction (applyRouterCmds [] cmds) meta :=
  (runRouterCmds_carries targetText (routerPort_carries targetText) cmds).routes

/-- `replace` resets the router from any state: on any port whose router layer denies
outbound what no rule takes, whatever rules it holds, a `replace` of valid entries followed
by any run of router administration leaves the router layer routing exactly as the routing
table those commands make of the entries. -/
theorem replace_routeLookup (targetText : RouterTarget → String) (layers : List Layer)
    (router : Layer) (found : findLayer layers routerLayerName = some router)
    (denies : router.defaultOut = .deny) (entries : List (IpCidr × RouterTarget))
    (valid : ∀ entry ∈ entries, validRouterDestTargetPair entry.1 entry.2 = true)
    (cmds : List RouterCmd) :
    ∃ router', findLayer (runRouterCmds targetText layers (.replace entries :: cmds))
        routerLayerName = some router' ∧
      ∀ meta, Option.Rel (fun entry first => makeRule targetText entry.1 entry.2 = .ok first.rule)
          (meta.innerDst.bind (routeLookup (applyRouterCmds entries cmds)))
          (router'.outRules.firstMatch meta) ∧
        router'.evaluate .out meta = routeAction (applyRouterCmds entries cmds) meta :=
  (runRouterCmds_carries targetText (replace_carries targetText found denies valid) cmds).routes

def overrideLayer : Layer :=
  { setup with outRules := (RuleTable.cleared 0).add ⟨0, [], .allow⟩ }

theorem replace_routeLookup_overrideLayer :
    findLayer [overrideLayer] routerLayerName = some overrideLayer ∧
    overrideLayer.defaultOut = .deny ∧
    (∀ entry ∈ guestRoutes, validRouterDestTargetPair entry.1 entry.2 = true) ∧
    ∃ router', findLayer (runRouterCmds (fun _ => "") [overrideLayer] (.replace guestRoutes :: []))
        routerLayerName = some router' ∧
      ∀ meta, Option.Rel (fun entry first => makeRule (fun _ => "") entry.1 entry.2 = .ok first.rule)
          (meta.innerDst.bind (routeLookup (applyRouterCmds guestRoutes [])))
          (router'.outRules.firstMatch meta) ∧
        router'.evaluate .out meta = routeAction (applyRouterCmds guestRoutes []) meta :=
  ⟨rfl, rfl, by decide,
    replace_routeLookup _ [overrideLayer] overrideLayer rfl rfl guestRoutes (by decide) []⟩

theorem RuleTable.remove_entries {table table' : RuleTable} {id : RuleId}
    (removed : table.remove id = some table') :
    table'.entries = table.entries.filter (·.id ≠ id) := by
  unfold RuleTable.remove at removed
  split_ifs at removed
  cases removed
  rfl

/-- Over every run of router administration on a port set up by `setup`, `del_entry` of a
valid entry answers `Ok` exactly when the routing table the run leaves holds the entry, and
`NotFound` otherwise; and it takes one copy of the entry's rule out of the router layer's
outbound rules, which is no change when the entry is not there. -/
theorem routerCmds_delEntry_answer (targetText : RouterTarget → String) (cmds : List RouterCmd)
    (dest : IpCidr) (target : RouterTarget) (valid : validRouterDestTargetPair dest target = true) :
    (delEntry portOps targetText (runRouterCmds targetText routerPort cmds) dest target).result =
      .ok (if (dest, target) ∈ applyRouterCmds [] cmds then .ok else .notFound) ∧
    ∃ rule router router', makeRule targetText dest target = .ok rule ∧
      findLayer (runRouterCmds targetText routerPort cmds) routerLayerName = some router ∧
      findLayer (delEntry portOps targetText (runRouterCmds targetText routerPort cmds) dest
        target).port routerLayerName = some router' ∧
      router'.outRules.entries.map (·.rule) = (router.outRules.entries.map (·.rule)).erase rule := by
  obtain ⟨router, found, -, ordered, inOrder⟩ :=
    runRouterCmds_carries targetText (routerPort_carries targetText) cmds
  obtain ⟨rule, built⟩ :=
    (makeRule_isOk_iff targetText dest target).mpr ((validRouterDestTargetPair_iff _ _).mp valid)
  simp only [Opte.delEntry, built, portOps, found, Layer.rules]
  rcases lookup : router.outRules.find rule with _ | id
  · refine ⟨by rw [if_neg (inOrder.not_mem_of_find built lookup)], rule, router, router, rfl, rfl,
      found, ?_⟩
    rw [List.erase_of_not_mem (RuleTable.find_eq_none.mp lookup)]
  · obtain ⟨rules', removed, -⟩ := inOrder.remove built lookup
    have member := inOrder.mem_of_find built lookup
    obtain ⟨entry, first, rfl⟩ := Option.map_eq_some'.mp lookup
    simp only [removed, if_pos member]
    refine ⟨rfl, rule, router, router.withRules .out rules', rfl, rfl, ?_, ?_⟩
    · rw [findLayer_updateLayer (fun _ => Layer.withRules_name _ _ _), found]
      rfl
    · show rules'.entries.map (·.rule) = _
      rw [RuleTable.remove_entries removed, filter_id_eq_eraseP router.outRules.distinct first,
        List.erase_eq_eraseP', List.eraseP_map]
      rfl

theorem routerCmds_delEntry_answer_defaultRoute :
    validRouterDestTargetPair (.ip4 ⟨⟨0⟩, ⟨0, by decide⟩, by decide⟩) .internetGateway = true ∧
    (delEntry portOps (fun _ => "") (runRouterCmds (fun _ => "") routerPort [.replace guestRoutes])
        (.ip4 ⟨⟨0⟩, ⟨0, by decide⟩, by decide⟩) .internetGateway).result =
      .ok (if (.ip4 ⟨⟨0⟩, ⟨0, by decide⟩, by decide⟩, .internetGateway) ∈
          applyRouterCmds [] [.replace guestRoutes] then .ok else .notFound) ∧
    ∃ rule router router',
      makeRule (fun _ => "") (.ip4 ⟨⟨0⟩, ⟨0, by decide⟩, by decide⟩) .internetGateway = .ok rule ∧
      findLayer (runRouterCmds (fun _ => "") routerPort [.replace guestRoutes]) routerLayerName =
        some router ∧
      findLayer (delEntry portOps (fun _ => "")
        (runRouterCmds (fun _ => "") routerPort [.replace guestRoutes])
        (.ip4 ⟨⟨0⟩, ⟨0, by decide⟩, by decide⟩) .internetGateway).port routerLayerName = some router' ∧
      router'.outRules.entries.map (·.rule) = (router.outRules.entries.map (·.rule)).erase rule :=
  ⟨by decide, routerCmds_delEntry_answer _ _ _ _ (by decide)⟩

/-- Once the routing table holds an entry for a destination, adding another entry for that
destination, to whatever target, changes how no packet is routed: the entry already there
wins every tie. -/
theorem addEntry_sameDest_routesUnchanged (targetText : RouterTarget → String)
    (cmds : List RouterCmd) (dest : IpCidr) (target target' : RouterTarget)
    (routed : (dest, target) ∈ applyRouterCmds [] cmds) :
    ∃ router router',
      findLayer (runRouterCmds targetText routerPort cmds) routerLayerName = some router ∧
      findLayer (runRouterCmds targetText routerPort (cmds ++ [.addEntry dest target']))
        routerLayerName = some router' ∧
      ∀ meta, router'.evaluate .out meta = router.evaluate .out meta := by
  obtain ⟨router, found, routes⟩ :=
    (runRouterCmds_carries targetText (routerPort_carries targetText) cmds).routes
  obtain ⟨router', found', routes'⟩ := (runRouterCmds_carries targetText
    (routerPort_carries targetText) (cmds ++ [.addEntry dest target'])).routes
  have added : applyRouterCmds [] (cmds ++ [.addEntry dest target']) =
      RouterCmd.apply (applyRouterCmds [] cmds) (.addEntry dest target') := by
    simp only [applyRouterCmds, List.foldl_append, List.foldl_cons, List.foldl_nil]
  refine ⟨router, router', found, found', fun meta => ?_⟩
  rw [(routes' meta).2, (routes meta).2, added, RouterCmd.apply]
  split
  · simp only [routeAction, routeLookup_append_of_mem routed]
  · rfl

theorem addEntry_sameDest_routesUnchanged_guestSubnet :
    (.ip4 ⟨⟨0x0a000000⟩, ⟨24, by decide⟩, by decide⟩, .vpcSubnet (.ip4 ⟨⟨0x0a000000⟩, ⟨24, by decide⟩, by decide⟩)) ∈
      applyRouterCmds [] [.replace guestRoutes] ∧
    ∃ router router',
      findLayer (runRouterCmds (fun _ => "") routerPort [.replace guestRoutes]) routerLayerName =
        some router ∧
      findLayer (runRouterCmds (fun _ => "") routerPort ([.replace guestRoutes] ++
        [.addEntry (.ip4 ⟨⟨0x0a000000⟩, ⟨24, by decide⟩, by decide⟩) .drop])) routerLayerName = some router' ∧
      ∀ meta, router'.evaluate .out meta = router.evaluate .out meta :=
  ⟨by decide, addEntry_sameDest_routesUnchanged _ [.replace guestRoutes] _
    (.vpcSubnet (.ip4 ⟨⟨0x0a000000⟩, ⟨24, by decide⟩, by decide⟩)) .drop (by decide)⟩

/-- Adding an entry the routing table lacks and deleting it again changes how no packet is
routed. -/
theorem addEntry_delEntry_routesUnchanged (targetText : RouterTarget → String)
    (cmds : List RouterCmd) (dest : IpCidr) (target : RouterTarget)
    (absent : (dest, target) ∉ applyRouterCmds [] cmds) :
    ∃ router router',
      findLayer (runRouterCmds targetText routerPort cmds) routerLayerName = some router ∧
      findLayer (runRouterCmds targetText routerPort
        (cmds ++ [.addEntry dest target, .delEntry dest target])) routerLayerName = some router' ∧
      ∀ meta, router'.evaluate .out meta = router.evaluate .out meta := by
  obtain ⟨router, found, routes⟩ :=
    (runRouterCmds_carries targetText (routerPort_carries targetText) cmds).routes
  obtain ⟨router', found', routes'⟩ := (runRouterCmds_carries targetText
    (routerPort_carries targetText) (cmds ++ [.addEntry dest target, .delEntry dest target])).routes
  refine ⟨router, router', found, found', fun meta => ?_⟩
  rw [(routes' meta).2, (routes meta).2, applyRouterCmds_add_del [] cmds absent]

theorem addEntry_delEntry_routesUnchanged_guestSubnet :
    (.ip4 ⟨⟨0x0a000000⟩, ⟨28, by decide⟩, by decide⟩, .drop) ∉ applyRouterCmds [] [.replace guestRoutes] ∧
    ∃ router router',
      findLayer (runRouterCmds (fun _ => "") routerPort [.replace guestRoutes]) routerLayerName =
        some router ∧
      findLayer (runRouterCmds (fun _ => "") routerPort ([.replace guestRoutes] ++
        [.addEntry (.ip4 ⟨⟨0x0a000000⟩, ⟨28, by decide⟩, by decide⟩) .drop,
          .delEntry (.ip4 ⟨⟨0x0a000000⟩, ⟨28, by decide⟩, by decide⟩) .drop])) routerLayerName = some router' ∧
      ∀ meta, router'.evaluate .out meta = router.evaluate .out meta :=
  ⟨by decide, addEntry_delEntry_routesUnchanged _ [.replace guestRoutes] _ _ (by decide)⟩

end Opte
