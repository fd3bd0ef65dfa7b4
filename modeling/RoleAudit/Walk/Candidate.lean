/-!
# Candidate files

Which file names denote sources worth reading: Java files whose name holds one of the markers.
-/

namespace RoleAudit.Walk

/-- The ending of Java files. -/
def javaEnding : String := ".java"

/-- The markers that hold where none are given. -/
def defaultMarkers : List String := ["Bean", "me"]

/-- One list of characters occurs in another, in one piece. -/
def occursIn (part : List Char) : List Char → Bool
  | [] => part.isEmpty
  | c :: cs => part.isPrefixOf (c :: cs) || occursIn part cs

/-- The name holds the marker. -/
def holdsMarker (name marker : String) : Bool := occursIn marker.toList name.toList

/-- The name ends as Java files do. -/
def isJavaName (name : String) : Bool := javaEnding.toList.isSuffixOf name.toList

/-- The name denotes a candidate; without markers every Java file is one. -/
def isCandidate (markers : List String) (name : String) : Bool :=
  isJavaName name && (markers.isEmpty || markers.any (holdsMarker name))

/-- Without markers only the ending counts. -/
@[simp] theorem isCandidate_nil (name : String) : isCandidate [] name = isJavaName name := by
  simp [isCandidate]

end RoleAudit.Walk
