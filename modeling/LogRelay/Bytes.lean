/-!
Octets and the big-endian integers written with them. A writer puts its value in front of the
bytes that follow it, a reader takes it off again.
-/
set_option autoImplicit false

namespace LogRelay

abbrev Bytes := List UInt8

namespace Bytes

def put16 (n : UInt16) (rest : Bytes) : Bytes :=
  UInt8.ofNat (n.toNat / 256) :: UInt8.ofNat n.toNat :: rest

def put32 (n : UInt32) (rest : Bytes) : Bytes :=
  UInt8.ofNat (n.toNat / 16777216) :: UInt8.ofNat (n.toNat / 65536) ::
    UInt8.ofNat (n.toNat / 256) :: UInt8.ofNat n.toNat :: rest

def word16 (a b : UInt8) : UInt16 :=
  UInt16.ofNat (a.toNat * 256 + b.toNat)

def word32 (a b c d : UInt8) : UInt32 :=
  UInt32.ofNat (a.toNat * 16777216 + b.toNat * 65536 + c.toNat * 256 + d.toNat)

theorem word16_put16 (n : UInt16) :
    word16 (UInt8.ofNat (n.toNat / 256)) (UInt8.ofNat n.toNat) = n := by
  apply UInt16.toNat_inj.mp
  have bound := n.toNat_lt
  simp only [word16, UInt16.toNat_ofNat', UInt8.toNat_ofNat']
  omega

theorem word32_put32 (n : UInt32) :
    word32 (UInt8.ofNat (n.toNat / 16777216)) (UInt8.ofNat (n.toNat / 65536))
      (UInt8.ofNat (n.toNat / 256)) (UInt8.ofNat n.toNat) = n := by
  apply UInt32.toNat_inj.mp
  have bound := n.toNat_lt
  simp only [word32, UInt32.toNat_ofNat', UInt8.toNat_ofNat']
  omega

theorem put16_length (n : UInt16) (rest : Bytes) : (put16 n rest).length = 2 + rest.length := by
  simp [put16]
  omega

theorem put32_length (n : UInt32) (rest : Bytes) : (put32 n rest).length = 4 + rest.length := by
  simp [put32]
  omega

end Bytes

end LogRelay
