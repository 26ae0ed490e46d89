import Gr4ControlPlane.Interleaving.Ownership

/-! Progress.  A call has finitely many commands whatever it is answered, so the calls that
are under way come to an end in every order of their steps, as long as none of them has to
wait. -/

namespace Gr4ControlPlane.Interleaving

variable {I : Interface} {S : System I} {K V G : Type}

def Config.Continues (c d : Config S) : Prop := ∃ i e, c.step (.run i e) = some d

inductive Shortened : List (Thread S) → List (Thread S) → Prop
  | head {th c k r t es ths} : th.prog = .step c k → Shortened (⟨th.op, k r, t, es⟩ :: ths) (th :: ths)
  | tail {th ths ths'} : Shortened ths' ths → Shortened (th :: ths') (th :: ths)

theorem Shortened.of_set {ths : List (Thread S)} {i : Nat} {th : Thread S} {c : I.Cmd}
    {k : I.Ans c → Program I S.Result} {r : I.Ans c} {t : Trace I} {es : List S.Env} (hi : ths[i]? = some th)
    (hp : th.prog = .step c k) : Shortened (ths.set i ⟨th.op, k r, t, es⟩) ths := by
  induction ths generalizing i with
  | nil => cases hi
  | cons u us ih =>
    cases i with
    | zero =>
      cases hi
      exact .head hp
    | succ i => exact .tail (ih hi)

theorem Shortened.acc_cons {ths : List (Thread S)} (h : Acc Shortened ths) (p : Program I S.Result) :
    ∀ th : Thread S, th.prog = p → Acc Shortened (th :: ths) := by
  induction p generalizing ths with
  | ret a =>
    induction h with
    | intro ths _ ih =>
      intro th hp
      constructor
      intro ths' hs
      cases hs with
      | head hstep => cases hp.symm.trans hstep
      | tail hs => exact ih _ hs th hp
  | step c k ihp =>
    induction h with
    | intro ths hacc ih =>
      intro th hp
      constructor
      intro ths' hs
      cases hs with
      | head hstep =>
        cases hp.symm.trans hstep
        exact ihp _ (.intro ths hacc) _ rfl
      | tail hs => exact ih _ hs th hp

theorem Shortened.acc (ths : List (Thread S)) : Acc Shortened ths := by
  induction ths with
  | nil => exact .intro [] fun ths h => by cases h
  | cons th ths ih => exact Shortened.acc_cons ih th.prog th rfl

theorem Config.Continues.shortened {c d : Config S} (h : c.Continues d) : Shortened d.threads c.threads := by
  obtain ⟨i, e, h⟩ := h
  obtain ⟨th, th', hi, hadv, hd⟩ := Config.step_run h
  obtain ⟨cmd, k, r, hp, -, rfl⟩ := Thread.advance_cases hadv
  exact hd ▸ Shortened.of_set hi hp

theorem Config.continues_finite (c : Config S) :
    ¬ ∃ f : Nat → Config S, f 0 = c ∧ ∀ n, (f n).Continues (f (n + 1)) := by
  rintro ⟨f, -, hf⟩
  have hnone : ∀ ths, Acc Shortened ths → ∀ n, (f n).threads ≠ ths := by
    intro ths h
    induction h with
    | intro ths _ ih =>
      intro n hn
      exact ih _ (hn ▸ (hf n).shortened) (n + 1) rfl
  exact hnone _ (Shortened.acc _) 0 rfl

def Config.Unblocked (c : Config S) : Prop :=
  ∀ i th e, c.threads[i]? = some th → th.active → (c.step (.run i e)).isSome

theorem Config.run_ops {c d : Config S} {ls : List (Label S)} (hls : ∀ l ∈ ls, ∃ i e, l = .run i e)
    (h : c.run ls = some d) : d.threads.map (·.op) = c.threads.map (·.op) := by
  induction ls generalizing c with
  | nil => cases h; rfl
  | cons l ls ih =>
    obtain ⟨c', hl, h⟩ := Option.bind_eq_some_iff.mp h
    have hc' : c'.threads.map (·.op) = c.threads.map (·.op) := by
      obtain ⟨i, e, rfl⟩ := hls l List.mem_cons_self
      obtain ⟨th, th', hi, hadv, hths⟩ := Config.step_run hl
      obtain ⟨_, _, _, -, -, rfl⟩ := Thread.advance_cases hadv
      obtain ⟨hlt, rfl⟩ := List.getElem?_eq_some_iff.mp hi
      have hlt' : i < (c.threads.map (·.op)).length := by simpa using hlt
      have hop : c.threads[i].op = (c.threads.map (·.op))[i] := (List.getElem_map ..).symm
      rw [hths, List.map_set, hop, List.set_getElem_self]
    exact (ih (fun l hl => hls l (List.mem_cons_of_mem _ hl)) h).trans hc'

theorem Config.drains {P : Config S → Prop} (hP : ∀ {c d : Config S}, P c → c.Continues d → P d)
    (hfree : ∀ c, P c → c.Unblocked) (answer : Config S → Nat → S.Env) {c : Config S} (h : P c) :
    ∃ ls d, (∀ l ∈ ls, ∃ c' i, l = .run i (answer c' i)) ∧ c.run ls = some d ∧ P d ∧
      ∀ th ∈ d.threads, th.active = false := by
  generalize hths : c.threads = ths
  induction Shortened.acc ths generalizing c with
  | intro ths _ ih =>
    by_cases hdone : ∀ th ∈ c.threads, th.active = false
    · exact ⟨[], c, by simp, rfl, h, hdone⟩
    · push Not at hdone
      obtain ⟨th, hth, ha⟩ := hdone
      obtain ⟨i, hi⟩ := List.mem_iff_getElem?.mp hth
      obtain ⟨d, hd⟩ := Option.isSome_iff_exists.mp (hfree c h i th (answer c i) hi (by simpa using ha))
      have hcont : c.Continues d := ⟨i, answer c i, hd⟩
      obtain ⟨ls, d', hls, hrun, hd', hend⟩ := ih _ (hths ▸ hcont.shortened) (hP h hcont) rfl
      refine ⟨.run i (answer c i) :: ls, d', ?_, ?_, hd', hend⟩
      · intro l hl
        cases hl with
        | head => exact ⟨c, i, rfl⟩
        | tail _ hl => exact hls l hl
      · rw [Config.run, hd, Option.bind_some, hrun]

structure Ownership.Ready (O : Ownership S K V G) : Prop where
  isSome : ∀ {x c e σ g t}, t ≠ [] → O.good σ g → (O.loc x).pre c (O.view x σ g) t → (S.exec c e σ).isSome

theorem Owned.unblocked {O : Ownership S K V G} {D : Discipline O} {c : Config S} {g : G} (hO : O.Ready)
    (h : Owned O D c g) : c.Unblocked := by
  intro i th e hi ha
  obtain ⟨hne, hwp⟩ := h.active th (List.mem_of_getElem? hi) ha
  obtain ⟨cmd, k, hp⟩ := Thread.active_iff.mp ha
  rw [hp] at hwp
  obtain ⟨⟨r, σ⟩, hr⟩ := Option.isSome_iff_exists.mp (hO.isSome (e := e) hne h.good hwp.1)
  exact Option.isSome_iff_exists.mpr ⟨_, Config.step_of_run hi (Thread.advance_of_exec hp hr)⟩

end Gr4ControlPlane.Interleaving
