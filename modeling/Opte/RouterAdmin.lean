import Opte.Router

/-!
The administration of the VPC router (`router.rs`): `add_entry`, `del_entry` and `replace`
build each entry's rule with `make_rule` before they reach the port. The port is abstract:
its state and what each of its rule operations answers are parameters, and every call the
router makes on it is recorded in order, so that whether the port was touched is a fact
about the run. The main result is that a refused entry leaves the port untouched.
-/

namespace Opte

def routerLayerName : String := "router"

abbrev RuleId := Nat

inductive DelRouterEntryResp
  | ok
  | notFound
  deriving DecidableEq

inductive PortCall
  | addRule (layer : String) (dir : Direction) (rule : Rule)
  | findRule (layer : String) (dir : Direction) (rule : Rule)
  | removeRule (layer : String) (dir : Direction) (id : RuleId)
  | setRules (layer : String) (inRules outRules : List Rule)
  deriving DecidableEq

/-- Modelled from the spec: the rule operations of a `Port` with state `σ`, what each answers
and the state it leaves. -/
structure PortOps (σ : Type) where
  addRule : σ → String → Direction → Rule → Except OpteError Unit × σ
  findRule : σ → String → Direction → Rule → Except OpteError (Option RuleId)
  removeRule : σ → String → Direction → RuleId → Except OpteError Unit × σ
  setRules : σ → String → List Rule → List Rule → Except OpteError Unit × σ

structure AdminRun (σ α : Type) where
  result : Except OpteError α
  calls : List PortCall
  port : σ

section Admin

variable {σ : Type} (ops : PortOps σ) (targetText : RouterTarget → String)

def delEntry (port : σ) (dest : IpCidr) (target : RouterTarget) :
    AdminRun σ DelRouterEntryResp :=
  match makeRule targetText dest target with
  | .error e => ⟨.error e, [], port⟩
  | .ok rule =>
      let find := PortCall.findRule routerLayerName .out rule
      match ops.findRule port routerLayerName .out rule with
      | .error e => ⟨.error e, [find], port⟩
      | .ok none => ⟨.ok .notFound, [find], port⟩
      | .ok (some id) =>
          let (removed, port') := ops.removeRule port routerLayerName .out id
          ⟨removed.map fun _ => .ok, [find, .removeRule routerLayerName .out id], port'⟩

def addEntry (port : σ) (dest : IpCidr) (target : RouterTarget) : AdminRun σ Unit :=
  match makeRule targetText dest target with
  | .error e => ⟨.error e, [], port⟩
  | .ok rule =>
      let (added, port') := ops.addRule port routerLayerName .out rule
      ⟨added, [.addRule routerLayerName .out rule], port'⟩

def makeRules : List (IpCidr × RouterTarget) → List Rule → Except OpteError (List Rule)
  | [], outRules => .ok outRules
  | (cidr, target) :: entries, outRules =>
      match makeRule targetText cidr target with
      | .error e => .error e
      | .ok rule => makeRules entries (outRules ++ [rule])

def replace (port : σ) (entries : List (IpCidr × RouterTarget)) : AdminRun σ Unit :=
  match makeRules targetText entries [] with
  | .error e => ⟨.error e, [], port⟩
  | .ok outRules =>
      let (set, port') := ops.setRules port routerLayerName [] outRules
      ⟨set, [.setRules routerLayerName [] outRules], port'⟩

theorem addEntry_port (port : σ) (dest : IpCidr) (target : RouterTarget) :
    (addEntry ops targetText port dest target).port = port ∨
      ∃ rule, (addEntry ops targetText port dest target).port =
        (ops.addRule port routerLayerName .out rule).2 := by
  unfold addEntry
  split
  · exact .inl rfl
  · exact .inr ⟨_, rfl⟩

theorem delEntry_port (port : σ) (dest : IpCidr) (target : RouterTarget) :
    (delEntry ops targetText port dest target).port = port ∨
      ∃ id, (delEntry ops targetText port dest target).port =
        (ops.removeRule port routerLayerName .out id).2 := by
  unfold delEntry
  split
  · exact .inl rfl
  · split
    · exact .inl rfl
    · exact .inl rfl
    · exact .inr ⟨_, rfl⟩

theorem replace_port (port : σ) (entries : List (IpCidr × RouterTarget)) :
    (replace ops targetText port entries).port = port ∨
      ∃ rules, (replace ops targetText port entries).port =
        (ops.setRules port routerLayerName [] rules).2 := by
  unfold replace
  split
  · exact .inl rfl
  · exact .inr ⟨_, rfl⟩

theorem makeRules_allowed : ∀ (entries : List (IpCidr × RouterTarget)) (outRules : List Rule),
    (∀ entry ∈ entries, RoutingTableAllows entry.1 entry.2) →
    ∃ rules, makeRules targetText entries outRules = .ok (outRules ++ rules) ∧
      List.Forall₂ (fun entry rule => makeRule targetText entry.1 entry.2 = .ok rule) entries rules
  | [], outRules, _ => ⟨[], by simp [makeRules], .nil⟩
  | (cidr, target) :: entries, outRules, allowed => by
      obtain ⟨rule, built⟩ :=
        (makeRule_isOk_iff targetText cidr target).mpr (allowed _ (List.mem_cons_self _ _))
      obtain ⟨rules, rest, pairs⟩ := makeRules_allowed entries (outRules ++ [rule])
        fun entry member => allowed entry (List.mem_cons_of_mem _ member)
      refine ⟨rule :: rules, ?_, .cons built pairs⟩
      simp [makeRules, built, rest]

theorem makeRules_built : ∀ (entries : List (IpCidr × RouterTarget)) (outRules rules : List Rule),
    makeRules targetText entries outRules = .ok rules →
    ∀ rule ∈ rules, rule ∈ outRules ∨ ∃ dest target, makeRule targetText dest target = .ok rule
  | [], outRules, rules, done => by
      cases done
      exact fun rule member => .inl member
  | (cidr, target) :: entries, outRules, rules, loop => by
      unfold makeRules at loop
      split at loop
      · cases loop
      · rename_i rule built
        intro other member
        rcases makeRules_built entries _ rules loop other member with pushed | fresh
        · rcases List.mem_append.mp pushed with old | new
          · exact .inl old
          · exact .inr ⟨cidr, target, (List.mem_singleton.mp new) ▸ built⟩
        · exact .inr fresh

theorem makeRules_ok_allowed : ∀ {entries : List (IpCidr × RouterTarget)} {outRules rules : List Rule},
    makeRules targetText entries outRules = .ok rules →
    ∀ entry ∈ entries, RoutingTableAllows entry.1 entry.2
  | [], _, _, _ => fun _ member => absurd member (List.not_mem_nil _)
  | (cidr, target) :: entries, outRules, rules, loop => by
      unfold makeRules at loop
      split at loop
      · cases loop
      · rename_i rule built
        intro entry member
        rcases List.mem_cons.mp member with rfl | later
        · exact (makeRule_ok built).1
        · exact makeRules_ok_allowed loop entry later

theorem makeRules_refused (dest : IpCidr) (target : RouterTarget)
    (refused : ¬ RoutingTableAllows dest target) (later : List (IpCidr × RouterTarget)) :
    ∀ (earlier : List (IpCidr × RouterTarget)) (outRules : List Rule),
    (∀ entry ∈ earlier, RoutingTableAllows entry.1 entry.2) →
    makeRules targetText (earlier ++ (dest, target) :: later) outRules =
      .error (.invalidRouterEntry dest (targetText target))
  | [], outRules, _ => by simp [makeRules, makeRule_error refused]
  | (cidr, entryTarget) :: earlier, outRules, allowed => by
      obtain ⟨rule, built⟩ :=
        (makeRule_isOk_iff targetText cidr entryTarget).mpr (allowed _ (List.mem_cons_self _ _))
      simp only [List.cons_append, makeRules, built]
      exact makeRules_refused dest target refused later earlier _
        fun entry member => allowed entry (List.mem_cons_of_mem _ member)

/-- Router admin operations are atomic: a refused entry is reported before any port call,
and `replace` reaches the port only with the rules of every entry, in order. -/
theorem routerAdmin_atomic (port : σ) :
    (∀ dest target, validRouterDestTargetPair dest target = false →
      addEntry ops targetText port dest target =
        ⟨.error (.invalidRouterEntry dest (targetText target)), [], port⟩ ∧
      delEntry ops targetText port dest target =
        ⟨.error (.invalidRouterEntry dest (targetText target)), [], port⟩) ∧
    (∀ earlier dest target later,
      (∀ entry ∈ earlier, validRouterDestTargetPair entry.1 entry.2 = true) →
      validRouterDestTargetPair dest target = false →
      replace ops targetText port (earlier ++ (dest, target) :: later) =
        ⟨.error (.invalidRouterEntry dest (targetText target)), [], port⟩) ∧
    ∀ entries, (∀ entry ∈ entries, validRouterDestTargetPair entry.1 entry.2 = true) →
      ∃ rules, List.Forall₂ (fun entry rule => makeRule targetText entry.1 entry.2 = .ok rule)
          entries rules ∧
        replace ops targetText port entries =
          ⟨(ops.setRules port routerLayerName [] rules).1,
            [.setRules routerLayerName [] rules], (ops.setRules port routerLayerName [] rules).2⟩ := by
  have table : ∀ dest target, validRouterDestTargetPair dest target = false →
      ¬ RoutingTableAllows dest target := fun dest target invalid => by
    rwa [← validRouterDestTargetPair_iff, Bool.not_eq_true]
  have tableAll : ∀ entries : List (IpCidr × RouterTarget),
      (∀ entry ∈ entries, validRouterDestTargetPair entry.1 entry.2 = true) →
      ∀ entry ∈ entries, RoutingTableAllows entry.1 entry.2 := fun _ valid entry member =>
    (validRouterDestTargetPair_iff _ _).mp (valid entry member)
  refine ⟨fun dest target invalid => ?_, fun earlier dest target later valid invalid => ?_,
    fun entries valid => ?_⟩
  · simp [addEntry, delEntry, makeRule_error (table dest target invalid)]
  · simp [replace, makeRules_refused targetText dest target (table dest target invalid) later
      earlier [] (tableAll earlier valid)]
  · obtain ⟨rules, built, pairs⟩ := makeRules_allowed targetText entries [] (tableAll entries valid)
    exact ⟨rules, pairs, by simp [replace, built]⟩

end Admin

end Opte
