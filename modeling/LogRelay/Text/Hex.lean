import LogRelay.Bytes

set_option autoImplicit false

namespace LogRelay.Hex

def digit (n : Nat) : Char :=
  if n < 10 then Char.ofNat (48 + n) else Char.ofNat (87 + n)

def digit? (c : Char) : Option Nat :=
  if '0' ≤ c ∧ c ≤ '9' then some (c.toNat - 48)
  else if 'a' ≤ c ∧ c ≤ 'f' then some (c.toNat - 87)
  else if 'A' ≤ c ∧ c ≤ 'F' then some (c.toNat - 55)
  else none

def digits (n : Nat) : List Char :=
  if n < 16 then [digit n] else digits (n / 16) ++ [digit (n % 16)]
decreasing_by omega

def ofNat (n : Nat) : String := String.ofList (digits n)

def padded (width n : Nat) : String :=
  let text := digits n
  String.ofList (List.replicate (width - text.length) '0' ++ text)

def encode (bytes : Bytes) : String :=
  bytes.foldl (fun out b => (out.push (digit (b.toNat / 16))).push (digit (b.toNat % 16))) ""

def decode? (text : List Char) : Option Bytes :=
  go text []
where
  go : List Char → Bytes → Option Bytes
    | [], out => some out.reverse
    | [_], _ => none
    | high :: low :: rest, out =>
        match digit? high, digit? low with
        | some h, some l => go rest (UInt8.ofNat (16 * h + l) :: out)
        | _, _ => none

end LogRelay.Hex
