import Mathlib

/-!
# IP addresses

Addresses of both families and the special-purpose networks that Python's
`ipaddress` classifies them by. An IPv6 address of `::ffff:0:0/96` carries an IPv4
address; what is said of the one concerns the other.
-/

namespace Ipaddress

def within {width : ℕ} (address base : BitVec width) (length : ℕ) : Bool :=
  address >>> (width - length) == base >>> (width - length)

/-- A network: base address and prefix length. -/
abbrev Network (width : ℕ) : Type := BitVec width × ℕ

def inAny {width : ℕ} (networks : List (Network width)) (address : BitVec width) : Bool :=
  networks.any fun network => within address network.1 network.2

variable {width : ℕ}

theorem inAny_eq_true {networks : List (Network width)} {address : BitVec width} :
    inAny networks address = true ↔
      ∃ network ∈ networks, within address network.1 network.2 = true := by
  simp [inAny]

/-- A network inside another one. -/
theorem within_trans {address base wider : BitVec width} {length longer : ℕ}
    (hlength : length ≤ longer) (hlonger : longer ≤ width)
    (hbase : within base wider length = true) (haddress : within address base longer = true) :
    within address wider length = true := by
  rw [within, beq_iff_eq] at hbase haddress ⊢
  have hsplit : width - length = (width - longer) + (longer - length) := by omega
  calc address >>> (width - length)
      = (address >>> (width - longer)) >>> (longer - length) := by
        rw [hsplit, BitVec.shiftRight_add]
    _ = (base >>> (width - longer)) >>> (longer - length) := by rw [haddress]
    _ = base >>> (width - length) := by rw [hsplit, BitVec.shiftRight_add]
    _ = wider >>> (width - length) := hbase

/-- Networks that share an address agree on the shorter of their prefixes. -/
theorem within_overlap {address base base' : BitVec width} {length length' : ℕ}
    (hbase : within address base length = true) (hbase' : within address base' length' = true)
    (hlength : length ≤ width)
    (hlength' : length' ≤ width) : within base base' (min length length') = true := by
  have hself : within base address length = true := by
    rw [within, beq_iff_eq] at hbase ⊢
    exact hbase.symm
  have hnarrow : ∀ {left right : BitVec width} {longer : ℕ}, longer ≤ width →
      min length length' ≤ longer → within left right longer = true →
      within left right (min length length') = true := by
    intro left right longer hlonger hmin hwithin
    rw [within, beq_iff_eq] at hwithin
    exact within_trans hmin hlonger (beq_self_eq_true _)
      (by rw [within, beq_iff_eq]; exact hwithin)
  have hleft := hnarrow hlength (min_le_left _ _) hself
  have hright := hnarrow hlength' (min_le_right _ _) hbase'
  rw [within, beq_iff_eq] at hleft hright ⊢
  exact hleft.trans hright

/-! ## IPv4 -/

/-- An IPv4 address from its octets. -/
def v4 (first second third fourth : BitVec 8) : BitVec 32 :=
  first ++ second ++ third ++ fourth

def privateNetworks4 : List (Network 32) :=
  [(v4 0 0 0 0, 8), (v4 10 0 0 0, 8), (v4 127 0 0 0, 8), (v4 169 254 0 0, 16),
    (v4 172 16 0 0, 12), (v4 192 0 0 0, 24), (v4 192 0 0 170, 31), (v4 192 0 2 0, 24),
    (v4 192 168 0 0, 16), (v4 198 18 0 0, 15), (v4 198 51 100 0, 24),
    (v4 203 0 113 0, 24), (v4 240 0 0 0, 4), (v4 255 255 255 255, 32)]

/-- The addresses of the private networks that are globally reachable. -/
def privateExceptions4 : List (Network 32) :=
  [(v4 192 0 0 9, 32), (v4 192 0 0 10, 32)]

def isPrivate4 (address : BitVec 32) : Bool :=
  inAny privateNetworks4 address && !inAny privateExceptions4 address

def isLoopback4 (address : BitVec 32) : Bool := within address (v4 127 0 0 0) 8

def isLinkLocal4 (address : BitVec 32) : Bool := within address (v4 169 254 0 0) 16

def isReserved4 (address : BitVec 32) : Bool := within address (v4 240 0 0 0) 4

def isMulticast4 (address : BitVec 32) : Bool := within address (v4 224 0 0 0) 4

def isUnspecified4 (address : BitVec 32) : Bool := address == v4 0 0 0 0

/-! ## IPv6 -/

/-- An IPv6 address from its leading groups; the rest are zero. -/
def v6 (groups : List (BitVec 16)) : BitVec 128 :=
  (groups ++ List.replicate (8 - groups.length) 0).foldl
    (fun address (group : BitVec 16) => address <<< 16 ||| group.setWidth 128)
    (0 : BitVec 128)

def privateNetworks6 : List (Network 128) :=
  [(1, 128), (0, 128), (0xffff <<< 32, 96), (v6 [0x64, 0xff9b, 1], 48), (v6 [0x100], 64),
    (v6 [0x2001], 23), (v6 [0x2001, 0xdb8], 32), (v6 [0x2002], 16), (v6 [0xfc00], 7),
    (v6 [0xfe80], 10)]

/-- The parts of the private networks that are globally reachable. -/
def privateExceptions6 : List (Network 128) :=
  [(v6 [0x2001, 1, 0, 0, 0, 0, 0, 1], 128), (v6 [0x2001, 1, 0, 0, 0, 0, 0, 2], 128),
    (v6 [0x2001, 3], 32), (v6 [0x2001, 4, 0x112], 48), (v6 [0x2001, 0x20], 28),
    (v6 [0x2001, 0x30], 28)]

def reservedNetworks6 : List (Network 128) :=
  [(0, 8), (v6 [0x100], 8), (v6 [0x200], 7), (v6 [0x400], 6), (v6 [0x800], 5),
    (v6 [0x1000], 4), (v6 [0x4000], 3), (v6 [0x6000], 3), (v6 [0x8000], 3),
    (v6 [0xa000], 3), (v6 [0xc000], 3), (v6 [0xe000], 4), (v6 [0xf000], 5),
    (v6 [0xf800], 6), (v6 [0xfe00], 9)]

/-- `ipv4_mapped`: the IPv4 address an IPv6 address carries. -/
def ipv4Mapped (address : BitVec 128) : Option (BitVec 32) :=
  if address >>> 32 = 0xffff then some (address.setWidth 32) else none

def isPrivate6 (address : BitVec 128) : Bool :=
  match ipv4Mapped address with
  | some carried => isPrivate4 carried
  | none => inAny privateNetworks6 address && !inAny privateExceptions6 address

def isLoopback6 (address : BitVec 128) : Bool := address == 1

def isLinkLocal6 (address : BitVec 128) : Bool := within address (v6 [0xfe80]) 10

def isReserved6 (address : BitVec 128) : Bool := inAny reservedNetworks6 address

def isMulticast6 (address : BitVec 128) : Bool := within address (v6 [0xff00]) 8

def isUnspecified6 (address : BitVec 128) : Bool := address == 0

/-- The network of the mapped addresses. -/
theorem within_of_mapped {address : BitVec 128} {carried : BitVec 32}
    (hmapped : ipv4Mapped address = some carried) :
    within address (0xffff <<< 32) 96 = true := by
  unfold ipv4Mapped at hmapped
  split at hmapped
  · rename_i hshift
    rw [within, beq_iff_eq]
    exact hshift.trans (by decide)
  · cases hmapped

/-- Every mapped address lies in `::/8`. -/
theorem isReserved6_of_mapped {address : BitVec 128} {carried : BitVec 32}
    (hmapped : ipv4Mapped address = some carried) : isReserved6 address = true :=
  inAny_eq_true.mpr ⟨(0, 8), List.mem_cons_self,
    within_trans (by decide : 8 ≤ 96) (by decide)
      (by decide : within (0xffff <<< 32 : BitVec 128) 0 8 = true)
      (within_of_mapped hmapped)⟩

/-! ## Addresses of either family -/

inductive IpAddress where
  | v4 (address : BitVec 32)
  | v6 (address : BitVec 128)
deriving DecidableEq

namespace IpAddress

def isPrivate : IpAddress → Bool
  | .v4 address => isPrivate4 address
  | .v6 address => isPrivate6 address

def isLoopback : IpAddress → Bool
  | .v4 address => isLoopback4 address
  | .v6 address => isLoopback6 address

def isLinkLocal : IpAddress → Bool
  | .v4 address => isLinkLocal4 address
  | .v6 address => isLinkLocal6 address

def isUnspecified : IpAddress → Bool
  | .v4 address => isUnspecified4 address
  | .v6 address => isUnspecified6 address

def isMulticast : IpAddress → Bool
  | .v4 address => isMulticast4 address
  | .v6 address => isMulticast6 address

def isReserved : IpAddress → Bool
  | .v4 address => isReserved4 address
  | .v6 address => isReserved6 address

/-- The address itself is loopback, private, link-local, reserved, multicast or
unspecified. -/
def isSpecial (address : IpAddress) : Bool :=
  address.isLoopback || address.isPrivate || address.isLinkLocal || address.isReserved ||
    address.isMulticast || address.isUnspecified

def isInternal : IpAddress → Bool
  | .v4 address => isSpecial (.v4 address)
  | .v6 address =>
      isSpecial (.v6 address) ||
        (ipv4Mapped address).any fun carried => isSpecial (.v4 carried)

/-- What carries a special address is reserved, so special itself. -/
theorem isInternal_eq_isSpecial (address : IpAddress) :
    address.isInternal = address.isSpecial := by
  cases address with
  | v4 address => rfl
  | v6 address =>
      cases hmapped : ipv4Mapped address with
      | none => simp [isInternal, hmapped]
      | some carried =>
          have hreserved : isReserved (.v6 address) = true :=
            isReserved6_of_mapped hmapped
          simp [isInternal, isSpecial, hreserved]

end IpAddress

end Ipaddress
