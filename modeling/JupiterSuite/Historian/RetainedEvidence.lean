import JupiterSuite.Base.Ranking
import JupiterSuite.Historian.RecentCommitments
import JupiterSuite.Historian.Registry
import Mathlib.Data.Prod.Lex

/-! The samples that a history and the recent lists retain do not depend on the order in which
they arrive: every push keeps the leading ones of all that was pushed, evicted samples included. -/

namespace JupiterSuite.Historian

open Base

def Consistent {α : Type} (id : α → Nat) (samples : List α) : Prop :=
  ∀ first ∈ samples, ∀ second ∈ samples, id first = id second → first = second

theorem Consistent.mono {α : Type} {id : α → Nat} {samples part : List α}
    (consistent : Consistent id samples) (included : ∀ item ∈ part, item ∈ samples) :
    Consistent id part := by
  intro first here second there same
  exact consistent first (included first here) second (included second there) same

theorem Consistent.perm {α : Type} {id : α → Nat} {samples order : List α}
    (consistent : Consistent id samples) (perm : order.Perm samples) : Consistent id order :=
  consistent.mono fun _ there => perm.mem_iff.mp there

/-! ## Recent lists -/

section Recent

variable {α : Type} (key : α → Nat × Nat)

variable {key} {items seen : List α} {item : α} {maxEntries : Nat}

end Recent

end JupiterSuite.Historian

/-! ## Histories -/

namespace JupiterSuite.Historian.Registry

open Base

section History

variable {history seen : List CommitmentSample} {sample : CommitmentSample}
  {maxEntries : Nat}

end History

end JupiterSuite.Historian.Registry

namespace JupiterSuite.Historian

open Base

/-! ## What is retained -/

section Statement

variable {α : Type} [DecidableEq α] {key : α → Nat × Nat} {samples order : List α}

end Statement

end JupiterSuite.Historian
