import Mathlib.Tactic

/-!
The types of `opte-api` that the modelled code reads: the direction of a packet, and the
IP addresses and CIDRs of the router. Their declarations lie outside the modelled sources:
an address is the number its bytes stand for in network order, and a prefix length carries
the bound its type guarantees. Membership of a CIDR is the agreement of the leading
`prefix_len` bits, and the strict containment of CIDRs that the router's priorities are
about is defined from it.
-/

namespace Opte

inductive Direction
  | «in»
  | out
  deriving DecidableEq, Repr

structure Ipv4Addr where
  bits : BitVec 32
  deriving DecidableEq, Repr

structure Ipv6Addr where
  bits : BitVec 128
  deriving DecidableEq, Repr

structure PrefixLen (max : Nat) where
  val : UInt8
  le : val.toNat ≤ max
  deriving DecidableEq

abbrev Ipv4PrefixLen := PrefixLen 32

abbrev Ipv6PrefixLen := PrefixLen 128

def ipv4NetmaskAll : Ipv4PrefixLen := ⟨32, by decide⟩

def ipv6NetmaskAll : Ipv6PrefixLen := ⟨128, by decide⟩

/-- Modelled from the spec: `Ipv4PrefixLen::new` and `Ipv6PrefixLen::new`, which refuse a
length past the family's. -/
def PrefixLen.new (max : Nat) (raw : UInt8) : Except String (PrefixLen max) :=
  if fits : raw.toNat ≤ max then .ok ⟨raw, fits⟩ else .error ("bad prefix length: " ++ toString raw)

/-- Modelled from the spec: `safe_mask`, the address with its bits past the first `len`
cleared. -/
def safeMask {width : Nat} (bits : BitVec width) (len : Nat) : BitVec width :=
  BitVec.ofNat width (bits.toNat / 2 ^ (width - len) * 2 ^ (width - len))

theorem safeMask_hostBitsClear {width : Nat} (bits : BitVec width) (len : Nat) :
    (safeMask bits len).toNat % 2 ^ (width - len) = 0 := by
  rw [safeMask, BitVec.toNat_ofNat,
    Nat.mod_eq_of_lt (lt_of_le_of_lt (Nat.div_mul_le_self _ _) bits.isLt)]
  exact Nat.mul_mod_left _ _

theorem safeMask_of_hostBitsClear {width len : Nat} {bits : BitVec width}
    (clear : bits.toNat % 2 ^ (width - len) = 0) : safeMask bits len = bits := by
  rw [safeMask, Nat.div_mul_cancel (Nat.dvd_of_mod_eq_zero clear), BitVec.ofNat_toNat,
    BitVec.setWidth_eq]

/-- Modelled from the spec: `Ipv4Cidr`; its constructor clears the address's bits past the
prefix, so no value has a host bit set. -/
structure Ipv4Cidr where
  ip : Ipv4Addr
  prefixLen : Ipv4PrefixLen
  hostBitsClear : ip.bits.toNat % 2 ^ (32 - prefixLen.val.toNat) = 0
  deriving DecidableEq

/-- Modelled from the spec: `Ipv6Cidr`, kept as `Ipv4Cidr` is. -/
structure Ipv6Cidr where
  ip : Ipv6Addr
  prefixLen : Ipv6PrefixLen
  hostBitsClear : ip.bits.toNat % 2 ^ (128 - prefixLen.val.toNat) = 0
  deriving DecidableEq

/-- Modelled from the spec: `Ipv4Cidr::new`. -/
def Ipv4Cidr.new (ip : Ipv4Addr) (prefixLen : Ipv4PrefixLen) : Ipv4Cidr :=
  ⟨⟨safeMask ip.bits prefixLen.val.toNat⟩, prefixLen, safeMask_hostBitsClear _ _⟩

/-- Modelled from the spec: `Ipv6Cidr::new`. -/
def Ipv6Cidr.new (ip : Ipv6Addr) (prefixLen : Ipv6PrefixLen) : Ipv6Cidr :=
  ⟨⟨safeMask ip.bits prefixLen.val.toNat⟩, prefixLen, safeMask_hostBitsClear _ _⟩

theorem Ipv4Cidr.new_self (cidr : Ipv4Cidr) : Ipv4Cidr.new cidr.ip cidr.prefixLen = cidr := by
  obtain ⟨⟨bits⟩, prefixLen, clear⟩ := cidr
  simp only [Ipv4Cidr.new, safeMask_of_hostBitsClear clear]

theorem Ipv6Cidr.new_self (cidr : Ipv6Cidr) : Ipv6Cidr.new cidr.ip cidr.prefixLen = cidr := by
  obtain ⟨⟨bits⟩, prefixLen, clear⟩ := cidr
  simp only [Ipv6Cidr.new, safeMask_of_hostBitsClear clear]

inductive IpAddr
  | ip4 (addr : Ipv4Addr)
  | ip6 (addr : Ipv6Addr)
  deriving DecidableEq

inductive IpCidr
  | ip4 (cidr : Ipv4Cidr)
  | ip6 (cidr : Ipv6Cidr)
  deriving DecidableEq

inductive IpFamily
  | ipv4
  | ipv6
  deriving DecidableEq

def IpAddr.family : IpAddr → IpFamily
  | .ip4 _ => .ipv4
  | .ip6 _ => .ipv6

def IpCidr.family : IpCidr → IpFamily
  | .ip4 _ => .ipv4
  | .ip6 _ => .ipv6

/-- Modelled from the spec: `Ipv4Cidr::is_default`, the default route `0.0.0.0/0`. -/
def Ipv4Cidr.isDefault (cidr : Ipv4Cidr) : Bool :=
  cidr.ip.bits = 0 && cidr.prefixLen.val = 0

/-- Modelled from the spec: `Ipv6Cidr::is_default`, the default route `::/0`. -/
def Ipv6Cidr.isDefault (cidr : Ipv6Cidr) : Bool :=
  cidr.ip.bits = 0 && cidr.prefixLen.val = 0

def IpCidr.isDefault : IpCidr → Bool
  | .ip4 cidr => cidr.isDefault
  | .ip6 cidr => cidr.isDefault

def samePrefix (width len ip addr : Nat) : Bool :=
  addr / 2 ^ (width - len) = ip / 2 ^ (width - len)

def Ipv4Cidr.isMember (cidr : Ipv4Cidr) (addr : Ipv4Addr) : Bool :=
  samePrefix 32 cidr.prefixLen.val.toNat cidr.ip.bits.toNat addr.bits.toNat

def Ipv6Cidr.isMember (cidr : Ipv6Cidr) (addr : Ipv6Addr) : Bool :=
  samePrefix 128 cidr.prefixLen.val.toNat cidr.ip.bits.toNat addr.bits.toNat

def IpCidr.isMember : IpCidr → IpAddr → Bool
  | .ip4 cidr, .ip4 addr => cidr.isMember addr
  | .ip6 cidr, .ip6 addr => cidr.isMember addr
  | _, _ => false

def IpCidr.ip : IpCidr → IpAddr
  | .ip4 cidr => .ip4 cidr.ip
  | .ip6 cidr => .ip6 cidr.ip

def IpCidr.prefixLen : IpCidr → Nat
  | .ip4 cidr => cidr.prefixLen.val.toNat
  | .ip6 cidr => cidr.prefixLen.val.toNat

def IpCidr.StrictSubset (c d : IpCidr) : Prop :=
  (∀ addr, c.isMember addr → d.isMember addr) ∧ ∃ addr, d.isMember addr ∧ ¬ c.isMember addr

theorem IpCidr.isMember_ip (cidr : IpCidr) : cidr.isMember cidr.ip := by
  cases cidr <;> simp [IpCidr.ip, IpCidr.isMember, Ipv4Cidr.isMember, Ipv6Cidr.isMember, samePrefix]

theorem samePrefix_of_le {width short long ip inner addr : Nat} (le : short ≤ long)
    (fits : long ≤ width) (inside : samePrefix width long ip inner)
    (member : samePrefix width long ip addr) : samePrefix width short inner addr := by
  simp only [samePrefix, decide_eq_true_eq] at inside member ⊢
  have widths : width - short = width - long + (long - short) := by omega
  rw [widths, Nat.pow_add, ← Nat.div_div_eq_div_mul, ← Nat.div_div_eq_div_mul, member, inside]

theorem IpCidr.prefixLen_lt_of_strictSubset {c d : IpCidr} (strict : c.StrictSubset d) :
    c.family = d.family ∧ d.prefixLen < c.prefixLen := by
  obtain ⟨within, addr, inD, notInC⟩ := strict
  have own := within c.ip c.isMember_ip
  cases c with
  | ip4 c =>
      cases d with
      | ip6 d => simp [IpCidr.ip, IpCidr.isMember] at own
      | ip4 d =>
          refine ⟨rfl, Nat.lt_of_not_le fun longer => ?_⟩
          cases addr with
          | ip6 _ => simp [IpCidr.isMember] at inD
          | ip4 addr =>
              exact notInC (samePrefix_of_le longer d.prefixLen.le own inD)
  | ip6 c =>
      cases d with
      | ip4 d => simp [IpCidr.ip, IpCidr.isMember] at own
      | ip6 d =>
          refine ⟨rfl, Nat.lt_of_not_le fun longer => ?_⟩
          cases addr with
          | ip4 _ => simp [IpCidr.isMember] at inD
          | ip6 addr =>
              exact notInC (samePrefix_of_le longer d.prefixLen.le own inD)

end Opte
