import TreeQuery.Main
import TreeQuery.Proofs.Selector.Acceptance
import TreeQuery.Proofs.Selector.Combinators
import TreeQuery.Proofs.Selector.Scope
import TreeQuery.Proofs.Tree.Invariant
import TreeQuery.Proofs.Tree.Circles
import TreeQuery.Proofs.Selector.Alternatives
import TreeQuery.Proofs.Selector.Nesting
import TreeQuery.Proofs.Selector.Unfinished
import TreeQuery.Proofs.Selector.Places
import TreeQuery.Proofs.Selector.NormalForm
import TreeQuery.Proofs.Selector.LetterCase
import TreeQuery.Proofs.Tree.LetterCase
import TreeQuery.Proofs.Selector.IgnoringCase
import TreeQuery.Proofs.Selector.Widening
import TreeQuery.Proofs.Tree.Growth
import TreeQuery.Proofs.Tree.Locality
import TreeQuery.Proofs.Document.Description
import TreeQuery.Proofs.Document.Loading
import TreeQuery.Proofs.Document.Contents
import TreeQuery.Proofs.Document.Finding
import TreeQuery.Proofs.Selector.Positions
import TreeQuery.Proofs.Selector.InnerSearch
import TreeQuery.Proofs.Selector.Merging
import TreeQuery.Proofs.Selector.Progressions
import TreeQuery.Proofs.Selector.Quoting
import TreeQuery.Proofs.Selector.FormulaDisplay
import TreeQuery.Proofs.Selector.Fragments
import TreeQuery.Proofs.Selector.EmptyNames
import TreeQuery.Proofs.Selector.Driving
