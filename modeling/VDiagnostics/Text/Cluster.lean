import VDiagnostics.Text.Width

/-! A terminal draws some characters together. A cut through a text never falls inside such a cluster. -/

namespace VDiagnostics

namespace Text

structure Cluster where
  text : Text
  cells : Nat
  deriving DecidableEq

namespace Cluster

/-- Adds characters to the newest cluster. Where there is none they are one by themselves. -/
def extend (piece : Text) (cells : Nat) : List Cluster → List Cluster
  | [] => [⟨piece, cells⟩]
  | newest :: older => ⟨newest.text ++ piece, newest.cells + cells⟩ :: older

/-- The clusters of a text that follows the given character, after those in reverse. At the start of a
text a joiner has nothing to join, and stands alone. -/
def ofTextAfter (last : Option Char) (reversed : List Cluster) : Text → List Cluster
  | [] => reversed.reverse
  | c :: rest =>
    if c = joiner && !reversed.isEmpty then
      match rest with
      | [] => (extend [c] 0 reversed).reverse
      | next :: rest => ofTextAfter last (extend [c, next] 0 reversed) rest
    else if c = pictureSelector && last.any isWidened then
      ofTextAfter none (extend [c] 1 reversed) rest
    else if charWidth c = 0 then ofTextAfter last (extend [c] 0 reversed) rest
    else ofTextAfter (some c) (⟨[c], charWidth c⟩ :: reversed) rest

def ofText (text : Text) : List Cluster :=
  ofTextAfter none [] text

/-- As many clusters as there is room for. Half a cluster is shown as a space. -/
def take : Nat → List Cluster → Text
  | 0, _ => []
  | _ + 1, [] => []
  | cells + 1, cluster :: rest =>
    if cluster.cells ≤ cells + 1 then cluster.text ++ take (cells + 1 - cluster.cells) rest
    else [' ']

end Cluster

/-- The beginning of a text that has a width, if the text is wider. -/
def cropped (cells : Nat) (text : Text) : Text :=
  Cluster.take cells (Cluster.ofText text)

end Text

end VDiagnostics
