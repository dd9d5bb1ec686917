import ReleaseStamp.Files.Locate
/-!
# Reading and writing a file

A file is read as text and written as a whole.  Before it is written the permission bits are asked,
of whatever the path leads to: where nobody may write, the file counts as read-only, whoever asks.
A path that leads nowhere yet has no bits to ask.  Opening the file then asks what the user may do.
-/
namespace ReleaseStamp.Files.Tree

def read (t : Tree) (path : Text) : Except Cause Text :=
  match t.locate .find path with
  | .error cause => .error cause
  | .ok (.directory l) =>
    .error (if t.user.mayRead (t.modeOf l) then .isADirectory else .permissionDenied)
  | .ok (.vacant _) => .error .noSuchEntry
  | .ok (.file _ mode content) =>
    if !t.user.mayRead mode then .error .permissionDenied
    else
      match Text.decode? content with
      | some text => .ok text
      | none => .error .notUtf8

theorem read_eq_ok_iff {t : Tree} {path text : Text} : t.read path = .ok text ↔
    ∃ l mode, t.locate .find path = .ok (.file l mode (Text.encode text)) ∧
      t.user.mayRead mode = true := by
  constructor
  · intro h
    unfold read at h
    cases hl : t.locate .find path with
    | error cause => rw [hl] at h; cases h
    | ok place =>
      rw [hl] at h
      cases place with
      | directory l => cases h
      | vacant l => cases h
      | file l mode content =>
        cases hm : t.user.mayRead mode with
        | false => simp [hm] at h
        | true =>
          have hc : Text.decode? content = some text := by
            cases hd : Text.decode? content with
            | none => simp [hm, hd] at h
            | some read => simpa [hm, hd] using h
          exact ⟨l, mode, by rw [(Text.decode?_eq_some_iff content text).1 hc], hm⟩
  · rintro ⟨l, mode, hl, hm⟩
    simp [read, hl, hm]

/-- Whether the path leads to something that nobody may write. -/
def isReadOnly (t : Tree) (path : Text) : Bool :=
  match t.locate .find path with
  | .ok (.file _ mode _) => mode.isReadOnly
  | .ok (.directory l) => (t.get? l).any Entry.isReadOnly
  | _ => false

/-- Puts the content into the file that the path leads to; the file is made if there is none. -/
def store (t : Tree) (path : Text) (content : ByteArray) : Except Cause Tree :=
  match t.locate .create path with
  | .error cause => .error cause
  | .ok (.directory _) => .error .isADirectory
  | .ok (.vacant l) => .ok (t.set l (.file Mode.newFile content))
  | .ok (.file l mode _) =>
    if t.user.mayWrite mode then .ok (t.set l (.file mode content)) else .error .permissionDenied

def write (t : Tree) (path : Text) (text : Text) : Except Cause Tree :=
  if t.isReadOnly path then .error .readOnly else t.store path (Text.encode text)

end ReleaseStamp.Files.Tree
