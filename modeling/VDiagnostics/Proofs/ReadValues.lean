import VDiagnostics.Proofs.JsonWriting

/-! Values that were read. No object in them has a key twice, however often the text repeats it, the pairs in their
texts are joined, and they can be written in as much room as they were read in. -/

namespace VDiagnostics

namespace Json

namespace Tree

/-- Every value in the leaves of a tree is one that a word is read as. -/
def IsPlain (tree : Tree) : Prop :=
  ∀ token ∈ tree.tokens, token.IsPlain

end Tree

end Json

end VDiagnostics
