import TagDispatch.Text.Extending
import TagDispatch.Text.Leading
import TagDispatch.Text.SpacingMark

/-!
# Clusters

A cluster is a character with the marks that belong to it. Only marks and leading signs are joined
to their neighbours; syllable blocks and picture sequences, which have no case, are left apart. The
package `convert_case` takes names apart into such clusters before it looks for words.
-/

namespace TagDispatch.Text

/-- Whether a character belongs to the cluster before it. -/
def continuesCluster (c : Char) : Bool :=
  0x80 ≤ c.toNat &&
    (c = '\u200D' || extendingRanges.contains c || spacingMarkRanges.contains c)

/-- Whether a character belongs to the cluster after it. -/
def leadsCluster (c : Char) : Bool := 0x80 ≤ c.toNat && leadingRanges.contains c

/-- The clusters of a text, in order. -/
def clusters : List Char → List (List Char)
  | [] => []
  | c :: rest =>
    match clusters rest with
    | (d :: ds) :: others =>
      if leadsCluster c || continuesCluster d then (c :: d :: ds) :: others
      else [c] :: (d :: ds) :: others
    | others => [c] :: others

end TagDispatch.Text
