/-!
# Text

Manifests, declared names, values and paths are lists of characters, so that a cut of a text is an
equation between lists.  Places in a manifest are told in bytes of its UTF-8 form: `byteLength` is
that measure on characters, and `size_encode` says that it is the size of the bytes a file holds.
`decode?_eq_some_iff` says that the bytes of a file hold at most one text and which.
-/
namespace ReleaseStamp

abbrev Text := List Char

namespace Text

/-- The length in UTF-8. -/
def byteLength (t : Text) : Nat := t.foldl (fun n c => n + c.utf8Size) 0

theorem foldl_utf8Size : ∀ (t : Text) (n : Nat),
    t.foldl (fun n c => n + c.utf8Size) n = n + byteLength t
  | [], n => rfl
  | c :: t, n => by
    simp only [byteLength, List.foldl_cons]
    rw [foldl_utf8Size t, foldl_utf8Size t (0 + c.utf8Size)]
    omega

@[simp] theorem byteLength_nil : byteLength [] = 0 := rfl

@[simp] theorem byteLength_cons (c : Char) (t : Text) :
    byteLength (c :: t) = c.utf8Size + byteLength t := by
  rw [byteLength, List.foldl_cons, foldl_utf8Size, Nat.zero_add]

@[simp] theorem byteLength_append (s t : Text) :
    byteLength (s ++ t) = byteLength s + byteLength t := by
  rw [byteLength, List.foldl_append, foldl_utf8Size]
  rfl

/-- The bytes of a file that holds the text. -/
def encode (t : Text) : ByteArray := (String.ofList t).toUTF8

/-- The text that a file holds, if its bytes are UTF-8. -/
def decode? (bytes : ByteArray) : Option Text := (String.fromUTF8? bytes).map String.toList

theorem size_encode : ∀ t : Text, (encode t).size = byteLength t
  | [] => by simp [encode]
  | c :: t => by
    have ih := size_encode t
    rw [encode, String.toUTF8_eq_toByteArray, String.toByteArray_ofList] at ih ⊢
    rw [List.utf8Encode_cons, ByteArray.size_append, ih, byteLength_cons]
    simp [List.utf8Encode]

theorem decode?_eq_some_iff (bytes : ByteArray) (t : Text) :
    decode? bytes = some t ↔ bytes = encode t := by
  unfold decode? encode
  constructor
  · intro h
    obtain ⟨s, hs, rfl⟩ := Option.map_eq_some_iff.1 h
    simp only [String.fromUTF8?, String.fromUTF8] at hs
    split at hs
    · cases hs; simp
    · cases hs
  · rintro rfl
    have h : String.fromUTF8? (String.ofList t).toUTF8 = some (String.ofList t) := by
      simp only [String.fromUTF8?]
      exact dif_pos (String.ofList t).isValidUTF8
    rw [h]; simp

@[simp] theorem decode?_encode (t : Text) : decode? (encode t) = some t :=
  (decode?_eq_some_iff _ _).2 rfl

def ofNat (n : Nat) : Text := Nat.toDigits 10 n

/-- The decimal number that a text spells, with or without a plus sign. -/
def toNat? (t : Text) : Option Nat :=
  let digits := if t.head? = some '+' then t.tail else t
  if digits ≠ [] ∧ digits.all Char.isDigit then
    some (digits.foldl (fun n c => n * 10 + (c.toNat - '0'.toNat)) 0)
  else none

/-- What follows `head` in a text that begins with it. -/
def after? : Text → Text → Option Text
  | [], t => some t
  | c :: head, d :: t => if c = d then after? head t else none
  | _ :: _, [] => none

theorem after?_eq_some_iff : ∀ head t rest : Text, after? head t = some rest ↔ t = head ++ rest
  | [], t, rest => by simp [after?]
  | _ :: _, [], rest => by simp [after?]
  | c :: head, d :: t, rest => by
    by_cases h : c = d
    · subst h; simp [after?, after?_eq_some_iff head t rest]
    · simp [after?, h, Ne.symm h]

/-- A text begins with one longest run of characters of a kind. -/
theorem run_unique {p : Char → Bool} {a b x y : Text} (ha : ∀ c ∈ a, p c = true)
    (hb : ∀ c ∈ b, p c = true) (hx : x.head?.all (!p ·) = true) (hy : y.head?.all (!p ·) = true)
    (h : a ++ x = b ++ y) : a = b ∧ x = y := by
  have run : ∀ a x : Text, (∀ c ∈ a, p c = true) → x.head?.all (!p ·) = true →
      (a ++ x).takeWhile p = a := by
    intro a x ha hx
    rw [List.takeWhile_append_of_pos ha]
    cases x with
    | nil => simp
    | cons c x =>
      have hc : p c = false := by simpa using hx
      simp [hc]
  have hab : a = b := by rw [← run a x ha hx, ← run b y hb hy, h]
  subst hab
  exact ⟨rfl, List.append_cancel_left h⟩

end Text
end ReleaseStamp
