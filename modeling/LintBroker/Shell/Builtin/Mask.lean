/-
  LintBroker.Shell.Builtin.Mask

  The mask of permissions that new files do not get: three bits each for the owner, the
  group and all others.  It is given by octal digits, or by clauses that change the
  permissions that are left.
-/
import LintBroker.Shell.Builtin.Basic
import LintBroker.Shell.Format

namespace LintBroker.Shell

open LintBroker.Number LintBroker.Text

/-! ## Writing -/

/-- The letters of three permissions. -/
def permissionLetters (bits : Nat) : Octets :=
  (if bits.testBit 2 then ['r'] else []) ++ (if bits.testBit 1 then ['w'] else [])
    ++ if bits.testBit 0 then ['x'] else []

/-- The permissions that a mask leaves, as clauses. -/
def maskClauses (mask : Nat) : Octets :=
  let clause (c : Char) (shift : Nat) : Octets :=
    c :: '=' :: permissionLetters (7 - (mask >>> shift) % 8)
  clause 'u' 6 ++ ',' :: clause 'g' 3 ++ ',' :: clause 'o' 0

/-! ## Reading -/

/-- All permissions. -/
def allPermissions : Nat := 0o777

/-- The permissions that are left out of some. -/
def without (permissions left : Nat) : Nat := permissions &&& (allPermissions ^^^ left)

/-- The classes that the letters at the front of a text name, as a number with a bit for each; and
    what follows. -/
def classes (named : Nat) : Octets → Nat × Octets
  | 'a' :: rest => classes (named ||| 0o111) rest
  | 'u' :: rest => classes (named ||| 0o100) rest
  | 'g' :: rest => classes (named ||| 0o010) rest
  | 'o' :: rest => classes (named ||| 0o001) rest
  | rest => (named, rest)

/-- The three permissions that the letters at the front of a text name; some of them stand for those
    that a class had before. -/
def permissions (before named : Nat) : Octets → Nat × Octets
  | 'r' :: rest => permissions before (named ||| 4) rest
  | 'w' :: rest => permissions before (named ||| 2) rest
  | 'x' :: rest => permissions before (named ||| 1) rest
  | 'u' :: rest => permissions before (named ||| before >>> 6) rest
  | 'g' :: rest => permissions before (named ||| before >>> 3) rest
  | 'o' :: rest => permissions before (named ||| before) rest
  | 'X' :: rest =>
    permissions before (if before &&& 0o111 = 0 then named else named ||| 1) rest
  | 's' :: rest => permissions before named rest
  | rest => (named % 8, rest)

/-- The permissions after the clauses of a text; none if it has another form. -/
def afterClauses (before : Nat) : Nat → Nat → Nat → Octets → Option Nat
  | 0, _, _, _ => none
  | _, _, now, [] => some now
  | fuel + 1, named, now, cs =>
    let (named, cs) := classes named cs
    let named := if named = 0 then 0o111 else named
    match cs with
    | [] => some now
    | op :: rest =>
      if op ≠ '=' ∧ op ≠ '+' ∧ op ≠ '-' then none
      else
        let (bits, rest) := permissions before 0 rest
        let changed := bits * named
        let now :=
          if op = '-' then without now changed
          else if op = '+' then now ||| changed
          else changed ||| without now (7 * named)
        match rest with
        | ',' :: rest => afterClauses before fuel 0 now rest
        | c :: _ =>
          if c = '=' ∨ c = '+' ∨ c = '-' then afterClauses before fuel named now rest else none
        | [] => some now

/-- The mask that a text writes. -/
def readMask? (mask : Nat) (cs : Octets) : Except Octets Nat :=
  if cs.head?.any Char.isDigit then
    if cs.all isOctal then .ok (digitsValue 8 cs % 0o1000) else .error (noNumber cs)
  else
    match afterClauses (without allPermissions mask) (cs.length + 1) 0
        (without allPermissions mask) cs with
    | some left => .ok (without allPermissions left)
    | none => .error ("Illegal mode: ".toList ++ cs)

/-- Writes or changes the mask. -/
def changeMask : Builtin := fun args => do
  let (options, rest) ← takeOptions "S" args
  let state ← get
  match rest with
  | [] => do
    let digits := padZeros 4 (Nat.toDigits 8 state.mask)
    put ((if gives options 'S' then maskClauses state.mask else digits) ++ ['\n'])
    return 0
  | text :: _ =>
    match readMask? state.mask text with
    | .ok mask => do
      set { state with mask }
      return 0
    | .error message => misuse message

end LintBroker.Shell
