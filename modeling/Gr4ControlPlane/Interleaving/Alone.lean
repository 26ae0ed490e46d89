import Gr4ControlPlane.Interleaving.Ownership

namespace Gr4ControlPlane.Interleaving

variable {I : Interface} {S : System I} {α : Type}

def Program.alone (S : System I) :
    Program I α → (Nat → S.Env) → S.State → Trace I → Option (α × S.State × Trace I)
  | .ret a, _, σ, t => some (a, σ, t)
  | .step c k, envs, σ, t =>
    (S.exec c (envs 0) σ).bind fun (r, σ') => (k r).alone S (fun n => envs (n + 1)) σ' (⟨c, r⟩ :: t)

def Config.aloneRun (op : S.Op) (i : Nat) (envs : Nat → S.Env) (n : Nat) : List (Label S) :=
  .invoke op (envs 0) :: (List.range n).map fun k => .run i (envs (k + 1))

theorem Program.alone_of_exec {c : I.Cmd} {k : I.Ans c → Program I α} {envs : Nat → S.Env} {σ τ : S.State}
    {t : Trace I} {r : I.Ans c} (h : S.exec c (envs 0) σ = some (r, τ)) :
    (Program.step c k).alone S envs σ t = (k r).alone S (fun n => envs (n + 1)) τ (⟨c, r⟩ :: t) := by
  simp only [Program.alone, h, Option.bind_some]

theorem Program.alone_step {c : I.Cmd} {k : I.Ans c → Program I α} {envs : Nat → S.Env} {σ σ' : S.State}
    {t t' : Trace I} {a : α} (h : (Program.step c k).alone S envs σ t = some (a, σ', t')) :
    ∃ r τ, S.exec c (envs 0) σ = some (r, τ) ∧
      (k r).alone S (fun n => envs (n + 1)) τ (⟨c, r⟩ :: t) = some (a, σ', t') := by
  obtain ⟨⟨r, τ⟩, hr, h⟩ := Option.bind_eq_some_iff.mp h
  exact ⟨r, τ, hr, h⟩

theorem Program.alone_suffix {p : Program I α} {envs : Nat → S.Env} {σ σ' : S.State} {t t' : Trace I} {a : α}
    (h : p.alone S envs σ t = some (a, σ', t')) : t <:+ t' := by
  induction p generalizing envs σ t with
  | ret a => cases h; exact List.suffix_rfl
  | step c k ih =>
    obtain ⟨r, τ, -, h⟩ := Program.alone_step h
    exact (List.suffix_cons _ _).trans (ih r h)

theorem Config.run_alone {p : Program I S.Result} {envs : Nat → S.Env} {c : Config S} {i : Nat} {op : S.Op}
    {t t' : Trace I} {es : List S.Env} {σ' : S.State} {a : S.Result}
    (hi : c.threads[i]? = some ⟨op, p, t, es⟩) (h : p.alone S envs c.shared t = some (a, σ', t')) :
    ∃ n es', c.run ((List.range n).map fun k => .run i (envs k)) =
      some ⟨σ', c.threads.set i ⟨op, .ret a, t', es'⟩⟩ := by
  induction p generalizing envs c t es with
  | ret b =>
    cases h
    obtain ⟨hlt, heq⟩ := List.getElem?_eq_some_iff.mp hi
    refine ⟨0, es, ?_⟩
    rw [← heq, List.set_getElem_self]
    rfl
  | step cmd k ih =>
    obtain ⟨r, τ, hr, h⟩ := Program.alone_step h
    have hlt : i < c.threads.length := (List.getElem?_eq_some_iff.mp hi).1
    have hstep : c.step (.run i (envs 0)) =
        some ⟨τ, c.threads.set i ⟨op, k r, ⟨cmd, r⟩ :: t, envs 0 :: es⟩⟩ := by
      simp [Config.step, hi, Thread.advance, hr]
    obtain ⟨n, es', hrun⟩ := ih r
      (c := ⟨τ, c.threads.set i ⟨op, k r, ⟨cmd, r⟩ :: t, envs 0 :: es⟩⟩) (List.getElem?_set_self hlt) h
    refine ⟨n + 1, es', ?_⟩
    rw [List.range_succ_eq_map, List.map_cons, List.map_map, Config.run, hstep, Option.bind_some]
    apply hrun.trans
    rw [List.set_set]

theorem Config.aloneRun_eq {op : S.Op} {envs : Nat → S.Env} {c : Config S} {cmd : I.Cmd}
    {k : I.Ans cmd → Program I S.Result} {r : I.Ans cmd} {τ σ' : S.State} {a : S.Result} {t : Trace I}
    (hbody : S.body op = .step cmd k) (hexec : S.exec cmd (envs 0) c.shared = some (r, τ))
    (h : (k r).alone S (fun n => envs (n + 1)) τ [⟨cmd, r⟩] = some (a, σ', t)) :
    ∃ n es, c.run (Config.aloneRun op c.threads.length envs n) =
      some ⟨σ', c.threads ++ [⟨op, .ret a, t, es⟩]⟩ := by
  have hstep : c.step (.invoke op (envs 0)) = some ⟨τ, c.threads ++ [⟨op, k r, [⟨cmd, r⟩], [envs 0]⟩]⟩ := by
    simp [Config.step, Thread.start, Thread.advance, hbody, hexec]
  have hlast : (c.threads ++ [⟨op, k r, [⟨cmd, r⟩], [envs 0]⟩])[c.threads.length]? =
      some ⟨op, k r, [⟨cmd, r⟩], [envs 0]⟩ := List.getElem?_concat_length
  obtain ⟨n, es, hrun⟩ := Config.run_alone (c := ⟨τ, c.threads ++ [⟨op, k r, [⟨cmd, r⟩], [envs 0]⟩]⟩) hlast h
  refine ⟨n, es, ?_⟩
  rw [Config.aloneRun, Config.run, hstep, Option.bind_some, hrun]
  simp

namespace Ownership

variable {K V G : Type} {O : Ownership S K V G} {p : Program I α} {x : K} {envs : Nat → S.Env} {σ σ' : S.State}
  {g : G} {t t' : Trace I} {a : α} {Q : α → V → Trace I → Prop}

theorem alone_isSome (hready : ∀ {c e σ g t}, t ≠ [] → O.good σ g → (O.loc x).pre c (O.view x σ g) t →
      (S.exec c e σ).isSome)
    (hadm : ∀ t ev, (O.loc x).admits t ev) (ht : t ≠ []) (hg : O.good σ g)
    (hw : p.wp (O.loc x) Q (O.view x σ g) t) : (p.alone S envs σ t).isSome := by
  induction p generalizing envs σ g t with
  | ret a => rfl
  | step c k ih =>
    obtain ⟨⟨r, τ⟩, hr⟩ := Option.isSome_iff_exists.mp (hready (e := envs 0) ht hg hw.1)
    obtain ⟨g', hg', hpost, -⟩ := O.sound hg hw.1 hr
    simp only [Program.alone, hr, Option.bind_some]
    exact ih r (List.cons_ne_nil _ _) hg' (hw.2 r _ hpost (hadm _ _))

theorem alone_ends (hg : O.good σ g) (hw : p.wp (O.loc x) Q (O.view x σ g) t)
    (h : p.alone S envs σ t = some (a, σ', t')) (hadm : ∀ ev ∈ t', ∀ u, (O.loc x).admits u ev) :
    ∃ g', O.good σ' g' ∧ Q a (O.view x σ' g') t' := by
  induction p generalizing envs σ g t with
  | ret b =>
    cases h
    exact ⟨g, hg, hw⟩
  | step c k ih =>
    obtain ⟨r, τ, hr, h⟩ := Program.alone_step h
    obtain ⟨g', hg', hpost, -⟩ := O.sound hg hw.1 hr
    have hmem : ⟨c, r⟩ ∈ t' := (Program.alone_suffix h).mem List.mem_cons_self
    exact ih r hg' (hw.2 r _ hpost (hadm _ hmem _)) h

end Ownership

end Gr4ControlPlane.Interleaving
