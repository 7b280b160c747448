import Mathlib

/-!
Calls whose state survives an exception: what was done before it stays done, and a handler goes on from there.
-/
namespace Ngotag.Survival

/-- A call over a state: how it ends, and the state that it leaves. -/
structure Call (σ ε α : Type) where
  run : σ → Except ε α × σ

variable {σ ε α β : Type}
def Call.bind (c : Call σ ε α) (f : α → Call σ ε β) : Call σ ε β where
  run s :=
    match c.run s with
    | (.ok a,t) => (f a).run t
    | (.error e,t) => (.error e,t)

/-- `try { body } catch (error) { handler(error) }` -/
def Call.tryCatch (body : Call σ ε α) (handler : ε → Call σ ε α) : Call σ ε α where
  run s :=
    match body.run s with
    | (.ok a,t) => (.ok a,t)
    | (.error e,t) => (handler e).run t
instance : Monad (Call σ ε) where
  pure a := ⟨fun s => (.ok a,s)⟩
  bind := .bind
instance : MonadExcept ε (Call σ ε) where
  throw e := ⟨fun s => (.error e,s)⟩
  tryCatch := .tryCatch

variable {c : Call σ ε α} {f : α → Call σ ε β} {handler : ε → Call σ ε α} {s t : σ} {a : α} {e : ε}
theorem bind_ok (first : c.run s = (.ok a,t)) : (c >>= f).run s = (f a).run t := by
  change (c.bind f).run s = _
  simp only [Call.bind,first]
theorem bind_error (first : c.run s = (.error e,t)) : (c >>= f).run s = (.error e,t) := by
  change (c.bind f).run s = _
  simp only [Call.bind,first]
theorem try_ok (body : c.run s = (.ok a,t)) : (tryCatch c handler).run s = (.ok a,t) := by
  change (c.tryCatch handler).run s = _
  simp only [Call.tryCatch,body]
theorem try_error (body : c.run s = (.error e,t)) : (tryCatch c handler).run s = (handler e).run t := by
  change (c.tryCatch handler).run s = _
  simp only [Call.tryCatch,body]

end Ngotag.Survival
