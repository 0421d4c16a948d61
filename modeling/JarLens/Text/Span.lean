/-!
# Spans of code points

A character class of the Unicode standard is a list of spans, both ends included.
-/

namespace JarLens.Text

/-- Whether one of the spans holds `n`. -/
def inSpans (spans : List (Nat × Nat)) (n : Nat) : Bool :=
  spans.any fun (first, last) => first ≤ n && n ≤ last

end JarLens.Text
