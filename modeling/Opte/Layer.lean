import Opte.RouterAdmin
import Opte.Packet

/-!
Rule evaluation in a layer of the opte port, modelled from the spec: the layer and its
predicates lie outside the modelled sources. A direction's rules are kept in a stable sort
by priority, so that rules of equal priority stay in insertion order, and the first rule
whose predicates all match a packet decides; with none, the direction's default does. The
order is the rule table's own invariant, which every operation on the table keeps.
-/

namespace Opte

/-! ### Predicates -/

/-- Modelled from the spec: `Ipv4AddrMatch::Prefix` matches the addresses of its CIDR. -/
def Ipv4AddrMatch.isMatch : Ipv4AddrMatch → Ipv4Addr → Bool
  | .Prefix cidr, addr => cidr.isMember addr

def Ipv6AddrMatch.isMatch : Ipv6AddrMatch → Ipv6Addr → Bool
  | .Prefix cidr, addr => cidr.isMember addr

/-- Modelled from the spec: an inner destination predicate matches a packet whose inner IP
header has its family and a destination one of its address matches takes. -/
def Predicate.isMatch (meta : PacketMeta) : Predicate → Bool
  | .innerDstIp4 addrs =>
      match meta.inner.ip with
      | some (.ip4 ip) => addrs.any (·.isMatch ip.dst)
      | _ => false
  | .innerDstIp6 addrs =>
      match meta.inner.ip with
      | some (.ip6 ip) => addrs.any (·.isMatch ip.dst)
      | _ => false

/-- Modelled from the spec: a rule matches when each of its predicates does. -/
def Rule.isMatch (rule : Rule) (meta : PacketMeta) : Bool :=
  rule.predicates.all (·.isMatch meta)

/-! ### The rule table -/

structure RuleEntry where
  id : RuleId
  rule : Rule
  deriving DecidableEq

def RuleEntry.Before (first second : RuleEntry) : Prop :=
  first.rule.priority.toNat < second.rule.priority.toNat ∨
    first.rule.priority.toNat = second.rule.priority.toNat ∧ first.id < second.id

/-- Modelled from the spec: a new rule goes after every rule of lower or equal priority. -/
def insertRule (entry : RuleEntry) : List RuleEntry → List RuleEntry
  | [] => [entry]
  | first :: rest =>
      if entry.rule.priority < first.rule.priority then entry :: first :: rest
      else first :: insertRule entry rest

/-- Modelled from the spec: the rules of one direction of a layer, in evaluation order, and
the id the next rule gets; the ids are distinct and below it. -/
structure RuleTable where
  entries : List RuleEntry
  nextId : RuleId
  sorted : entries.Pairwise RuleEntry.Before
  fresh : ∀ entry ∈ entries, entry.id < nextId
  distinct : (entries.map (·.id)).Nodup

theorem RuleEntry.Before.priority_le {first second : RuleEntry} (before : first.Before second) :
    first.rule.priority.toNat ≤ second.rule.priority.toNat :=
  before.elim Nat.le_of_lt fun same => same.1.le

theorem priority_lt_of_lt_head {entry first : RuleEntry} {rest : List RuleEntry}
    (sorted : (first :: rest).Pairwise RuleEntry.Before)
    (lower : entry.rule.priority.toNat < first.rule.priority.toNat) :
    ∀ other ∈ first :: rest, entry.rule.priority.toNat < other.rule.priority.toNat
  | _, .head _ => lower
  | _, .tail _ member => lower.trans_le (List.rel_of_pairwise_cons sorted member).priority_le

theorem insertRule_perm (entry : RuleEntry) :
    ∀ entries : List RuleEntry, (insertRule entry entries).Perm (entry :: entries)
  | [] => .refl _
  | first :: rest => by
      unfold insertRule
      split
      · exact .refl _
      · exact ((insertRule_perm entry rest).cons first).trans (.swap entry first rest)

theorem insertRule_sorted {entry : RuleEntry} :
    ∀ {entries : List RuleEntry}, entries.Pairwise RuleEntry.Before →
      (∀ other ∈ entries, other.id < entry.id) →
      (insertRule entry entries).Pairwise RuleEntry.Before
  | [], _, _ => List.pairwise_singleton _ _
  | first :: rest, sorted, older => by
      unfold insertRule
      split
      · rename_i lower
        exact sorted.cons fun other member => .inl (priority_lt_of_lt_head sorted lower other member)
      · rename_i notLower
        have notLower : ¬ entry.rule.priority.toNat < first.rule.priority.toNat := notLower
        have rest_sorted := insertRule_sorted (List.Pairwise.of_cons sorted)
          fun other member => older other (List.mem_cons_of_mem _ member)
        refine rest_sorted.cons fun other member => ?_
        rcases List.mem_cons.mp ((insertRule_perm entry rest).mem_iff.mp member) with rfl | later
        · exact (Nat.lt_or_eq_of_le (Nat.not_lt.mp notLower)).imp id
            fun same => ⟨same, older first (List.mem_cons_self _ _)⟩
        · exact List.rel_of_pairwise_cons sorted later

theorem insertRule_eq_filter (entry : RuleEntry) :
    ∀ {entries : List RuleEntry}, entries.Pairwise RuleEntry.Before →
      insertRule entry entries =
        entries.filter (fun other => other.rule.priority ≤ entry.rule.priority) ++
          entry :: entries.filter (fun other => entry.rule.priority < other.rule.priority)
  | [], _ => rfl
  | first :: rest, sorted => by
      unfold insertRule
      split
      · rename_i lower
        have above := priority_lt_of_lt_head sorted lower
        rw [List.filter_eq_nil_iff.mpr fun other member => by
              simpa only [decide_eq_true_eq] using Nat.not_le.mpr (above other member),
          List.filter_eq_self.mpr fun other member => by
              simpa only [decide_eq_true_eq] using above other member]
        rfl
      · rename_i notLower
        have notLower : ¬ entry.rule.priority.toNat < first.rule.priority.toNat := notLower
        have atMost : first.rule.priority ≤ entry.rule.priority := by
          show first.rule.priority.toNat ≤ entry.rule.priority.toNat
          omega
        rw [insertRule_eq_filter entry (List.Pairwise.of_cons sorted),
          List.filter_cons_of_pos (by simpa using atMost),
          List.filter_cons_of_neg (by simpa using notLower)]
        rfl

section Table

variable (table : RuleTable)

/-- Modelled from the spec: `clear_rules`, an empty direction whose next rule gets `nextId`. -/
def RuleTable.cleared (nextId : RuleId) : RuleTable :=
  ⟨[], nextId, .nil, nofun, .nil⟩

/-- Modelled from the spec: `add_rule`, the rule in its place with the next id. -/
def RuleTable.add (rule : Rule) : RuleTable where
  entries := insertRule ⟨table.nextId, rule⟩ table.entries
  nextId := table.nextId + 1
  sorted := insertRule_sorted table.sorted table.fresh
  fresh := fun entry member => by
    rcases List.mem_cons.mp ((insertRule_perm _ _).mem_iff.mp member) with rfl | old
    · exact Nat.lt_succ_self _
    · exact Nat.lt_succ_of_lt (table.fresh entry old)
  distinct := by
    rw [((insertRule_perm _ _).map _).nodup_iff, List.map_cons, List.nodup_cons]
    exact ⟨fun taken => by
      obtain ⟨entry, member, same⟩ := List.mem_map.mp taken
      exact absurd (same ▸ table.fresh entry member) (Nat.lt_irrefl _), table.distinct⟩

theorem RuleTable.add_entries (rule : Rule) :
    (table.add rule).entries =
      table.entries.filter (fun entry => entry.rule.priority ≤ rule.priority) ++
        ⟨table.nextId, rule⟩ ::
          table.entries.filter (fun entry => rule.priority < entry.rule.priority) :=
  insertRule_eq_filter _ table.sorted

/-- Modelled from the spec: `set_rules`, the rules added in list order in place of the
direction's. -/
def RuleTable.set (rules : List Rule) : RuleTable :=
  rules.foldl RuleTable.add (RuleTable.cleared table.nextId)

/-- Modelled from the spec: `find_rule`, the id of the first installed rule equal to `rule`. -/
def RuleTable.find (rule : Rule) : Option RuleId :=
  (table.entries.find? (·.rule = rule)).map (·.id)

/-- Modelled from the spec: `remove_rule`, which refuses an unknown id. -/
def RuleTable.remove (id : RuleId) : Option RuleTable :=
  if id ∈ table.entries.map (·.id) then
    some ⟨table.entries.filter (·.id ≠ id), table.nextId,
      table.sorted.sublist (List.filter_sublist _),
      fun entry member => table.fresh entry (List.mem_of_mem_filter member),
      (table.distinct.sublist ((List.filter_sublist _).map _))⟩
  else none

/-- Modelled from the spec: the rule a packet matches first, in evaluation order. -/
def RuleTable.firstMatch (meta : PacketMeta) : Option RuleEntry :=
  table.entries.find? (·.rule.isMatch meta)

end Table

theorem firstMatch_priority_le {meta : PacketMeta} :
    ∀ {entries : List RuleEntry}, entries.Pairwise RuleEntry.Before →
      ∀ {entry : RuleEntry}, entry ∈ entries → entry.rule.isMatch meta = true →
      ∃ first, entries.find? (·.rule.isMatch meta) = some first ∧ first ∈ entries ∧
        first.rule.isMatch meta = true ∧ first.rule.priority.toNat ≤ entry.rule.priority.toNat
  | [], _, _, member, _ => absurd member (List.not_mem_nil _)
  | head :: rest, sorted, entry, member, entryMatches => by
      by_cases headMatches : head.rule.isMatch meta = true
      · refine ⟨head, by simp [headMatches], List.mem_cons_self _ _, headMatches, ?_⟩
        rcases List.mem_cons.mp member with rfl | later
        · exact le_refl _
        · exact (List.rel_of_pairwise_cons sorted later).priority_le
      · have later : entry ∈ rest := by
          rcases List.mem_cons.mp member with rfl | later
          · exact absurd entryMatches headMatches
          · exact later
        obtain ⟨first, found, inRest, firstMatches, le⟩ :=
          firstMatch_priority_le (List.Pairwise.of_cons sorted) later entryMatches
        exact ⟨first, by simp [headMatches, found], List.mem_cons_of_mem _ inRest, firstMatches, le⟩

theorem foldl_add_rules (rules : List Rule) : ∀ table : RuleTable,
    ((rules.foldl RuleTable.add table).entries.map (·.rule)).Perm
      (table.entries.map (·.rule) ++ rules) := by
  induction rules with
  | nil => simp
  | cons rule rules ih =>
      intro table
      have added : ((table.add rule).entries.map (·.rule)).Perm
          (rule :: table.entries.map (·.rule)) :=
        (insertRule_perm _ _).map _
      exact (ih (table.add rule)).trans ((added.append_right rules).trans List.perm_middle.symm)

theorem RuleTable.set_rules (table : RuleTable) (rules : List Rule) :
    ((table.set rules).entries.map (·.rule)).Perm rules :=
  foldl_add_rules rules _

/-! ### The router layer -/

def PacketMeta.innerDst (meta : PacketMeta) : Option IpAddr :=
  match meta.inner.ip with
  | some (.ip4 ip) => some (.ip4 ip.dst)
  | some (.ip6 ip) => some (.ip6 ip.dst)
  | none => none

theorem dstPredicate_isMatch (dest : IpCidr) (meta : PacketMeta) :
    (dstPredicate dest).isMatch meta = true ↔
      ∃ addr, meta.innerDst = some addr ∧ dest.isMember addr := by
  unfold dstPredicate Predicate.isMatch PacketMeta.innerDst
  rcases dest with dest | dest <;> rcases meta.inner.ip with _ | (ip | ip) <;>
    simp only [List.any_cons, List.any_nil, Bool.or_false, Ipv4AddrMatch.isMatch,
      Ipv6AddrMatch.isMatch, Option.some.injEq, exists_eq_left', IpCidr.isMember,
      reduceCtorEq, false_and, exists_false, Bool.false_eq_true]

theorem makeRule_isMatch {targetText : RouterTarget → String} {dest : IpCidr}
    {target : RouterTarget} {rule : Rule} (built : makeRule targetText dest target = .ok rule)
    (meta : PacketMeta) :
    rule.isMatch meta = true ↔ ∃ addr, meta.innerDst = some addr ∧ dest.isMember addr := by
  obtain ⟨-, rfl⟩ := makeRule_ok built
  simp [Rule.isMatch, Rule.finalize, Rule.addPredicate, Rule.new, dstPredicate_isMatch]

/-- Router priorities implement longest-prefix match, and stay clear of priorities 0 to 9:
of two nested destinations the inner one's rule has the lower priority, so in any rule
table holding it, a packet it matches (and so the outer one's too) resolves to a rule of
at most its priority, never to the outer one's, and to it where the table holds only the
two. -/
theorem routerPriority_longestPrefix (targetText : RouterTarget → String) :
    (∀ cidr : Ipv4Cidr, (prefixLenToPriority (.ip4 cidr)).toNat = 32 - cidr.prefixLen.val.toNat + 10 ∧
      10 ≤ (prefixLenToPriority (.ip4 cidr)).toNat ∧ (prefixLenToPriority (.ip4 cidr)).toNat ≤ 42) ∧
    (∀ cidr : Ipv6Cidr, (prefixLenToPriority (.ip6 cidr)).toNat = 128 - cidr.prefixLen.val.toNat + 10 ∧
      10 ≤ (prefixLenToPriority (.ip6 cidr)).toNat ∧ (prefixLenToPriority (.ip6 cidr)).toNat ≤ 138) ∧
    ∀ (inner outer : IpCidr) (innerTarget outerTarget : RouterTarget) (innerRule outerRule : Rule),
      makeRule targetText inner innerTarget = .ok innerRule →
      makeRule targetText outer outerTarget = .ok outerRule →
      inner.StrictSubset outer → innerRule.priority < outerRule.priority ∧
      ∀ (table : RuleTable) (meta : PacketMeta), innerRule ∈ table.entries.map (·.rule) →
        innerRule.isMatch meta = true →
        ∃ first, table.firstMatch meta = some first ∧ first.rule.priority ≤ innerRule.priority ∧
          first.rule ≠ outerRule ∧
          ((∀ entry ∈ table.entries, entry.rule = innerRule ∨ entry.rule = outerRule) →
            first.rule = innerRule) := by
  refine ⟨fun cidr => ?_, fun cidr => ?_, fun inner outer _ _ innerRule outerRule innerBuilt outerBuilt
    strict => ?_⟩
  · rw [prefixLenToPriority_ip4]; omega
  · rw [prefixLenToPriority_ip6]; omega
  have lower : innerRule.priority < outerRule.priority := by
    rw [(makeRule_ok innerBuilt).2, (makeRule_ok outerBuilt).2]
    exact prefixLenToPriority_lt strict
  refine ⟨lower, fun table meta installed innerMatches => ?_⟩
  obtain ⟨entry, member, rfl⟩ := List.mem_map.mp installed
  obtain ⟨first, found, firstMember, -, le⟩ :=
    firstMatch_priority_le table.sorted member innerMatches
  have notOuter : first.rule ≠ outerRule := fun same => by
    have lower : entry.rule.priority.toNat < outerRule.priority.toNat := lower
    rw [← same] at lower
    omega
  exact ⟨first, found, le, notOuter, fun only => (only first firstMember).resolve_right notOuter⟩

theorem routerPriority_longestPrefix_nestedSubnets :
    IpCidr.StrictSubset (.ip4 ⟨⟨0x0a000000⟩, ⟨24, by decide⟩, by decide⟩)
      (.ip4 ⟨⟨0x0a000000⟩, ⟨16, by decide⟩, by decide⟩) ∧
    ∃ innerRule outerRule,
      makeRule (fun _ => "") (.ip4 ⟨⟨0x0a000000⟩, ⟨24, by decide⟩, by decide⟩)
        (.ip (.ip4 ⟨0x0a000001⟩)) = .ok innerRule ∧
      makeRule (fun _ => "") (.ip4 ⟨⟨0x0a000000⟩, ⟨16, by decide⟩, by decide⟩) .drop =
        .ok outerRule ∧
      innerRule.priority < outerRule.priority := by
  have strict : IpCidr.StrictSubset (.ip4 ⟨⟨0x0a000000⟩, ⟨24, by decide⟩, by decide⟩)
      (.ip4 ⟨⟨0x0a000000⟩, ⟨16, by decide⟩, by decide⟩) := by
    refine ⟨fun addr member => ?_, .ip4 ⟨0x0a000100⟩, by decide, by decide⟩
    cases addr with
    | ip4 addr => exact samePrefix_of_le (by decide) (by decide) (by decide) member
    | ip6 addr => simp [IpCidr.isMember] at member
  refine ⟨strict, _, _, rfl, rfl, ?_⟩
  refine ((routerPriority_longestPrefix (fun _ => "")).2.2 _ _ (.ip (.ip4 ⟨0x0a000001⟩)) .drop _ _
    ?_ ?_ strict).1 <;> rfl

theorem forall₂_mem_right {α β : Type} {R : α → β → Prop} :
    ∀ {as : List α} {bs : List β}, List.Forall₂ R as bs → ∀ {b}, b ∈ bs → ∃ a ∈ as, R a b
  | _, _, .nil, _, member => absurd member (List.not_mem_nil _)
  | a :: _, _ :: _, .cons head tail, _, member => by
      rcases List.mem_cons.mp member with rfl | later
      · exact ⟨a, List.mem_cons_self _ _, head⟩
      · obtain ⟨a', inAs, rel⟩ := forall₂_mem_right tail later
        exact ⟨a', List.mem_cons_of_mem _ inAs, rel⟩

theorem forall₂_mem_left {α β : Type} {R : α → β → Prop} :
    ∀ {as : List α} {bs : List β}, List.Forall₂ R as bs → ∀ {a}, a ∈ as → ∃ b ∈ bs, R a b
  | _, _, .nil, _, member => absurd member (List.not_mem_nil _)
  | _ :: _, b :: _, .cons head tail, _, member => by
      rcases List.mem_cons.mp member with rfl | later
      · exact ⟨b, List.mem_cons_self _ _, head⟩
      · obtain ⟨b', inBs, rel⟩ := forall₂_mem_left tail later
        exact ⟨b', List.mem_cons_of_mem _ inBs, rel⟩

theorem priority_le_iff_prefixLen_le {c d : IpCidr} {addr : IpAddr} (inC : c.isMember addr)
    (inD : d.isMember addr) :
    (prefixLenToPriority c).toNat ≤ (prefixLenToPriority d).toNat ↔ d.prefixLen ≤ c.prefixLen := by
  rcases c with c | c <;> rcases d with d | d <;> rcases addr with addr | addr <;>
    simp only [IpCidr.isMember, Bool.false_eq_true] at inC inD
  · rw [prefixLenToPriority_ip4, prefixLenToPriority_ip4]
    have := c.prefixLen.le
    have := d.prefixLen.le
    simp only [IpCidr.prefixLen]
    omega
  · rw [prefixLenToPriority_ip6, prefixLenToPriority_ip6]
    have := c.prefixLen.le
    have := d.prefixLen.le
    simp only [IpCidr.prefixLen]
    omega

theorem prefixLen_le_of_priority_le {c d : IpCidr} {addr : IpAddr} (inC : c.isMember addr)
    (inD : d.isMember addr)
    (le : (prefixLenToPriority c).toNat ≤ (prefixLenToPriority d).toNat) :
    d.prefixLen ≤ c.prefixLen :=
  (priority_le_iff_prefixLen_le inC inD).mp le

theorem firstMatch_longestPrefix {targetText : RouterTarget → String} {table : RuleTable}
    {meta : PacketMeta} {first : RuleEntry} (found : table.firstMatch meta = some first)
    {dest : IpCidr} {target : RouterTarget} (built : makeRule targetText dest target = .ok first.rule) :
    ∃ addr, meta.innerDst = some addr ∧ dest.isMember addr ∧
      ∀ other ∈ table.entries, ∀ otherDest otherTarget,
        makeRule targetText otherDest otherTarget = .ok other.rule →
        otherDest.isMember addr → otherDest.prefixLen ≤ dest.prefixLen := by
  have found : table.entries.find? (·.rule.isMatch meta) = some first := found
  have firstMatches := List.find?_some found
  obtain ⟨addr, dst, inside⟩ := (makeRule_isMatch built meta).mp firstMatches
  refine ⟨addr, dst, inside, fun other member otherDest otherTarget otherBuilt otherInside => ?_⟩
  obtain ⟨first', found', -, -, le⟩ := firstMatch_priority_le table.sorted member
    ((makeRule_isMatch otherBuilt meta).mpr ⟨addr, dst, otherInside⟩)
  cases Option.some.inj (found'.symm.trans found)
  rw [(makeRule_ok built).2, (makeRule_ok otherBuilt).2] at le
  exact prefixLen_le_of_priority_le inside otherInside le

def RoutesByLongestPrefix (targetText : RouterTarget → String)
    (entries : List (IpCidr × RouterTarget)) (table : RuleTable) : Prop :=
  ∀ meta : PacketMeta,
    (table.firstMatch meta = none ↔
      ∀ entry ∈ entries, ∀ addr, meta.innerDst = some addr → entry.1.isMember addr = false) ∧
    ∀ first, table.firstMatch meta = some first →
      ∃ entry ∈ entries, makeRule targetText entry.1 entry.2 = .ok first.rule ∧
        ∃ addr, meta.innerDst = some addr ∧ entry.1.isMember addr ∧
          ∀ other ∈ entries, other.1.isMember addr → other.1.prefixLen ≤ entry.1.prefixLen

theorem routesByLongestPrefix_of_perm {targetText : RouterTarget → String}
    {entries : List (IpCidr × RouterTarget)} {rules : List Rule}
    (built : List.Forall₂ (fun entry rule => makeRule targetText entry.1 entry.2 = .ok rule)
      entries rules)
    {table : RuleTable} (holds : (table.entries.map (·.rule)).Perm rules) :
    RoutesByLongestPrefix targetText entries table := by
  have installed : ∀ entry ∈ entries, ∃ installedEntry ∈ table.entries,
      makeRule targetText entry.1 entry.2 = .ok installedEntry.rule := fun entry member => by
    obtain ⟨rule, ruleMember, ruleBuilt⟩ := forall₂_mem_left built member
    obtain ⟨installedEntry, installedMember, rfl⟩ := List.mem_map.mp (holds.mem_iff.mpr ruleMember)
    exact ⟨installedEntry, installedMember, ruleBuilt⟩
  have origin : ∀ installedEntry ∈ table.entries, ∃ entry ∈ entries,
      makeRule targetText entry.1 entry.2 = .ok installedEntry.rule := fun installedEntry member =>
    forall₂_mem_right built (holds.mem_iff.mp (List.mem_map_of_mem _ member))
  intro meta
  constructor
  · constructor
    · intro noMatch entry member addr dst
      obtain ⟨installedEntry, installedMember, entryBuilt⟩ := installed entry member
      by_contra inside
      have entryMatches := (makeRule_isMatch entryBuilt meta).mpr ⟨addr, dst, by simpa using inside⟩
      obtain ⟨_, found, -⟩ := firstMatch_priority_le table.sorted installedMember entryMatches
      rw [RuleTable.firstMatch] at noMatch
      rw [noMatch] at found
      cases found
    · intro outside
      rw [RuleTable.firstMatch, List.find?_eq_none]
      intro installedEntry member entryMatches
      obtain ⟨entry, entryMember, entryBuilt⟩ := origin installedEntry member
      obtain ⟨addr, dst, inside⟩ := (makeRule_isMatch entryBuilt meta).mp entryMatches
      exact absurd (outside entry entryMember addr dst) (by simpa using inside)
  · intro first found
    obtain ⟨entry, entryMember, entryBuilt⟩ := origin first (List.mem_of_find?_eq_some found)
    obtain ⟨addr, dst, inside, longest⟩ := firstMatch_longestPrefix found entryBuilt
    refine ⟨entry, entryMember, entryBuilt, addr, dst, inside, fun other otherMember otherInside => ?_⟩
    obtain ⟨otherEntry, otherInstalled, otherBuilt⟩ := installed other otherMember
    exact longest otherEntry otherInstalled other.1 other.2 otherBuilt otherInside

theorem set_routesByLongestPrefix (targetText : RouterTarget → String) (table : RuleTable)
    {entries : List (IpCidr × RouterTarget)} {rules : List Rule}
    (built : List.Forall₂ (fun entry rule => makeRule targetText entry.1 entry.2 = .ok rule)
      entries rules) :
    RoutesByLongestPrefix targetText entries (table.set rules) :=
  routesByLongestPrefix_of_perm built (table.set_rules rules)

end Opte
