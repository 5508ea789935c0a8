import Deckhand.Lib.Prog

/-! A program against a host that answers each of its calls, whatever it was asked before. -/
namespace Deckhand.Lib

section
variable {Op : Type} {Ret : Op → Type} {ε α β : Type}

/-- The calls that were made so far, with their answers. -/
abbrev Played (Op : Type) (Ret : Op → Type) := List ((op : Op) × Ret op)

abbrev Host (Op : Type) (Ret : Op → Type) := Played Op Ret → (op : Op) → Ret op

namespace Prog

/-- The calls the program makes after `past`, and how it ends. -/
def play (host : Host Op Ret) : Played Op Ret → Prog Ret ε α → Played Op Ret × Except ε α
  | _, .ret r => ([], r)
  | past, .call op k =>
    let answer := host past op
    let later := (k answer).play host (past ++ [⟨op, answer⟩])
    (⟨op, answer⟩ :: later.1, later.2)

def calls (host : Host Op Ret) (p : Prog Ret ε α) : List Op := (p.play host []).1.map Sigma.fst

theorem play_map (host : Host Op Ret) (past : Played Op Ret) (f : α → β) (p : Prog Ret ε α) :
    ((f <$> p).play host past).1 = (p.play host past).1 := by
  induction p generalizing past with
  | ret r => cases r <;> rfl
  | call op k ih =>
    have later := ih (host past op) (past ++ [⟨op, host past op⟩])
    exact congrArg (⟨op, host past op⟩ :: ·) later

theorem calls_fmap (host : Host Op Ret) (f : α → β) (p : Prog Ret ε α) :
    (f <$> p).calls host = p.calls host :=
  congrArg (List.map Sigma.fst) (play_map host [] f p)

@[simp] theorem calls_end (host : Host Op Ret) (r : Except ε α) :
    (Prog.ret r : Prog Ret ε α).calls host = [] := rfl

end Prog

/-- A program that depends on who asks only in the value it ends with, which `f` turns into
the value for another. -/
def Retargets {ρ : Type} (asks : ρ → ρ → Prop) (f : ρ → α → α) (h : ρ → Prog Ret ε α) : Prop :=
  ∀ r s, asks r s → h s = f s <$> h r

section Retargets
variable {ρ : Type} {asks : ρ → ρ → Prop} {f : ρ → α → α}

theorem Retargets.bind {p : Prog Ret ε β} {h : β → ρ → Prog Ret ε α}
    (each : ∀ b, Retargets asks f (h b)) : Retargets asks f fun r => p >>= fun b => h b r := by
  intro r s same
  rw [map_bind]
  exact congrArg (p >>= ·) (funext fun b => each b r s same)

theorem Retargets.throw (x : ε) : Retargets asks f fun _ => (.ret (.error x) : Prog Ret ε α) :=
  fun _ _ _ => rfl

theorem Retargets.value {v : ρ → α} (moves : ∀ r s, asks r s → v s = f s (v r)) :
    Retargets asks f fun r => (pure (v r) : Prog Ret ε α) :=
  fun r s same => congrArg (fun a => Prog.ret (.ok a)) (moves r s same)

theorem tryCatch_map (g : α → β) (p : Prog Ret ε α) (handler : ε → Prog Ret ε α) :
    g <$> p.tryCatch handler = (g <$> p).tryCatch fun x => g <$> handler x := by
  induction p with
  | ret r => cases r <;> rfl
  | call op k ih => exact congrArg (Prog.call op) (funext ih)

theorem Retargets.catch {h : ρ → Prog Ret ε α} {handler : ε → ρ → Prog Ret ε α}
    (body : Retargets asks f h) (handles : ∀ x, Retargets asks f (handler x)) :
    Retargets asks f fun r => (h r).tryCatch fun x => handler x r := by
  intro r s same
  change (h s).tryCatch (fun x => handler x s) = f s <$> (h r).tryCatch fun x => handler x r
  rw [tryCatch_map, body r s same]
  exact congrArg (Prog.tryCatch _) (funext fun x => handles x r s same)

theorem Retargets.calls {h : ρ → Prog Ret ε α} (moves : Retargets asks f h) {r s : ρ}
    (same : asks r s) (host : Host Op Ret) : (h s).calls host = (h r).calls host := by
  rw [moves r s same, Prog.calls_fmap]

end Retargets
end
end Deckhand.Lib
