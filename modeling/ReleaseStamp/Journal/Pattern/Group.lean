import ReleaseStamp.Journal.Pattern.Cursor
import ReleaseStamp.Journal.Pattern.Syntax
import ReleaseStamp.Text.Property.Derived
/-!
# Groups of a pattern

What opens a group: a bracket, and after it perhaps a name or flags.  Flags without a group are set
where they stand.
-/
namespace ReleaseStamp.Journal.Pattern.Group

open Reading

def alphabetic : Text.CodeSet := Text.Property.Derived.alphabetic.set

def number : Text.CodeSet := Text.Property.Category.number.set

def isFirstOfName (c : Char) : Bool := c = '_' || alphabetic.has c.toNat

def isInName (c : Char) : Bool :=
  isFirstOfName c || number.has c.toNat || c = '.' || c = '[' || c = ']'

/-- The name of a group at the beginning of a text. -/
def nameOf : Text → Text
  | [] => []
  | c :: t => if isFirstOfName c then c :: t.takeWhile isInName else []

/-- Reads the name of a group, which no group before it has, and the bracket after it. -/
def name (taken : List (Text × Stretch)) : Reading (Text × Stretch) := do
  let start ← place
  let name := nameOf (← rest)
  drop name.length
  let s := ⟨start, ← place⟩
  match ← next? with
  | none => failHere .nameUnfinished
  | some '>' =>
    bump
    if name = [] then fail .nameMissing s
    match taken.lookup name with
    | some earlier => throw ⟨.nameDuplicate, s, some earlier⟩
    | none => return (name, s)
  | some _ => failAtNext .nameInvalid

def letters : List (Char × Flag) :=
  [('i', .ignoreCase), ('m', .multiLine), ('s', .dotAll), ('U', .swapGreed), ('u', .unicode),
    ('R', .returnEndsLine), ('x', .loose)]

/-- Reads flags up to what ends them, given those before, the last first, with their places. -/
def flags : Text → List (Char × Nat) → Reading (List (Char × Nat))
  | [], _ => failHere .flagUnfinished
  | _ :: bound, before => do
    match ← next? with
    | none => failHere .flagUnfinished
    | some c =>
      if c = ':' ∨ c = ')' then
        match before with
        | ('-', mark) :: _ => fail .flagDangling ⟨mark, mark + 1⟩
        | _ => return before
      else
        let here ← place
        if c ≠ '-' && (letters.lookup c).isNone then failAtNext .flagUnknown
        match before.lookup c with
        | some mark =>
          throw ⟨if c = '-' then .negationRepeated else .flagDuplicate, ⟨here, here + 1⟩,
            some ⟨mark, mark + 1⟩⟩
        | none =>
          bump
          flags bound ((c, here) :: before)

/-- What flags set, and what those after a hyphen unset. -/
def settingOf (flags : Text) : Setting :=
  let set := flags.takeWhile (· != '-')
  set.filterMap (fun c => (letters.lookup c).map (·, true)) ++
    (flags.drop set.length).filterMap fun c => (letters.lookup c).map (·, false)

/-- What is opened. -/
inductive Opening where
  | group (kind : GroupKind) (opening : Stretch) (name? : Option (Text × Stretch))
  | setting (x : Setting) (s : Stretch)

/-- Reads what opens a group, given the names of the groups before and how many matches are kept. -/
def opening (taken : List (Text × Stretch)) (captures : Nat) : Reading Opening := do
  let start ← place
  let bracket := ⟨start, start + 1⟩
  advance
  for look in ["?=", "?!", "?<=", "?<!"] do
    if ← accept look then failSince .lookAround start
  let inside ← place
  if (← accept "?P<") || (← accept "?<") then
    let named ← name taken
    return .group (.capture (captures + 1) (some named.1)) bracket (some named)
  else if ← accept "?" then
    if ← isAtEnd then fail .groupUnclosed bracket
    let read ← flags (← rest) []
    let setting := settingOf (read.map Prod.fst).reverse
    let isGroup := (← next?) = some ':'
    bump
    if !isGroup && read.isEmpty then fail .repetitionOfNothing ⟨inside, inside⟩
    let s := ⟨start, ← place⟩
    return if isGroup then .group (.plain setting) bracket none else .setting setting s
  else return .group (.capture (captures + 1) none) bracket none

end ReleaseStamp.Journal.Pattern.Group
