import ReleaseStamp.Revision
/-!
# Revisions in succession

One request after another is carried out on a text.  Each finds the text that the one before it
left, and a request that is refused leaves the text as it is.
-/
namespace ReleaseStamp.Request

def revise (r : Request) (text : Text) : Except Objection Revision :=
  (Stamp.ofRequest r).map (·.revise text)

def textAfter (r : Request) (text : Text) : Text :=
  match r.revise text with
  | .ok revision => revision.text
  | .error _ => text

/-- What each request comes to. -/
def reviseInTurn : Text → List Request → List (Except Objection Revision)
  | _, [] => []
  | text, r :: requests => r.revise text :: reviseInTurn (r.textAfter text) requests

def textAfterAll (text : Text) (requests : List Request) : Text :=
  requests.foldl (fun text r => r.textAfter text) text

end ReleaseStamp.Request
