import Gr4ControlPlane.Interleaving.Serialization

/-! Calls on one key run as if there were no others: leaving out every step that is about
another key leaves a run with the same calls, the same answers and the same view. -/

namespace Gr4ControlPlane.Interleaving

variable {α : Type} {p : α → Bool} {l : List α} {i : Nat} {a b : α}

theorem split_at (h : l[i]? = some a) : l = l.take i ++ a :: l.drop (i + 1) := by
  obtain ⟨hlt, rfl⟩ := List.getElem?_eq_some_iff.mp h
  rw [List.getElem_cons_drop, List.take_append_drop]

theorem set_split (h : l[i]? = some a) : l.set i b = l.take i ++ b :: l.drop (i + 1) := by
  obtain ⟨hlt, -⟩ := List.getElem?_eq_some_iff.mp h
  rw [List.set_eq_take_append_cons_drop, if_pos hlt]

def keptIndex (p : α → Bool) (l : List α) (i : Nat) : Nat := (l.take i).countP p

theorem filter_set_of_not (h : l[i]? = some a) (ha : p a = false) (hb : p b = false) :
    (l.set i b).filter p = l.filter p := by
  conv_rhs => rw [split_at h]
  rw [set_split h, List.filter_append, List.filter_append, List.filter_cons_of_neg (by simp [hb]),
    List.filter_cons_of_neg (by simp [ha])]

theorem filter_getElem? (h : l[i]? = some a) (ha : p a = true) : (l.filter p)[keptIndex p l i]? = some a := by
  conv_lhs => rw [split_at h]
  rw [List.filter_append, List.filter_cons_of_pos ha, keptIndex, List.countP_eq_length_filter]
  simp [← split_at h]

theorem filter_set (h : l[i]? = some a) (ha : p a = true) (hb : p b = true) :
    (l.set i b).filter p = (l.filter p).set (keptIndex p l i) b := by
  rw [set_split h]
  conv_rhs => rw [split_at h]
  rw [List.filter_append, List.filter_append, List.filter_cons_of_pos hb, List.filter_cons_of_pos ha, keptIndex,
    List.countP_eq_length_filter]
  simp [← split_at h]

variable {I : Interface} {S : System I} {K V : Type}

theorem Config.step_addressed {D : Keyed S K V} {c c' : Config S} {l : Label S}
    (ha : ∀ th ∈ c.threads, th.Addressed D) (hs : c.step l = some c') :
    ∀ th ∈ c'.threads, th.Addressed D := by
  intro u hu
  cases l with
  | invoke op e =>
    obtain ⟨th, hadv, hth⟩ := Config.step_invoke hs
    rcases Config.mem_invoke (hth ▸ hu) with hu | rfl
    · exact ha u hu
    · exact Thread.advance_addressed (Thread.start_addressed op) hadv
  | run i e =>
    obtain ⟨th, th', hi, hadv, hth⟩ := Config.step_run hs
    rcases List.mem_or_eq_of_mem_set (hth ▸ hu) with hu | rfl
    · exact ha u hu
    · exact Thread.advance_addressed (ha th (List.mem_of_getElem? hi)) hadv

theorem Config.run_addressed {D : Keyed S K V} {c c' : Config S} {ls : List (Label S)}
    (ha : ∀ th ∈ c.threads, th.Addressed D) (hr : c.run ls = some c') : ∀ th ∈ c'.threads, th.Addressed D := by
  induction ls generalizing c with
  | nil =>
    cases hr
    exact ha
  | cons l ls ih =>
    obtain ⟨c₁, hs, hr⟩ := Option.bind_eq_some_iff.mp hr
    exact ih (Config.step_addressed ha hs) hr

variable [DecidableEq K] (D : Keyed S K V) (x : K)

def onKey (th : Thread S) : Bool := decide (D.key th.op = x)

def Label.calls (ops : List S.Op) : Label S → List S.Op
  | .invoke op _ => ops ++ [op]
  | .run _ _ => ops

def labelOn (ops : List S.Op) : Label S → Option (Label S)
  | .invoke op e => if D.key op = x then some (.invoke op e) else none
  | .run i e =>
    if ops[i]?.any fun op => decide (D.key op = x) then
      some (.run (keptIndex (fun op => decide (D.key op = x)) ops i) e)
    else none

def labelsOn : List S.Op → List (Label S) → List (Label S)
  | _, [] => []
  | ops, l :: ls => (labelOn D x ops l).toList ++ labelsOn (l.calls ops) ls

structure Projects (c d : Config S) : Prop where
  threads : d.threads = c.threads.filter (onKey D x)
  view : D.view x d.shared = D.view x c.shared

variable {D x} {c c' d : Config S} {l : Label S}

theorem Config.step_calls (h : c.step l = some c') :
    c'.threads.map Thread.op = l.calls (c.threads.map Thread.op) := by
  cases l with
  | invoke op e =>
    obtain ⟨th, hadv, hth⟩ := Config.step_invoke h
    obtain ⟨_, _, _, -, -, rfl⟩ := Thread.advance_cases hadv
    simp [hth, Label.calls, Thread.start]
  | run i e =>
    obtain ⟨th, th', hi, hadv, hth⟩ := Config.step_run h
    obtain ⟨_, _, _, -, -, rfl⟩ := Thread.advance_cases hadv
    obtain ⟨hlt, rfl⟩ := List.getElem?_eq_some_iff.mp hi
    rw [hth, Label.calls, List.map_set, ← List.getElem_map Thread.op, List.set_getElem_self]
    simpa using hlt

theorem Projects.advance_map (h : Projects D x c d) {th : Thread S} (ha : th.Addressed D)
    (hx : D.key th.op = x) (e : S.Env) :
    (th.advance e d.shared).map (fun p => (p.1, D.view x p.2)) =
      (th.advance e c.shared).map fun p => (p.1, D.view x p.2) := by
  subst hx
  rw [Thread.advance_view ha, Thread.advance_view ha, h.view]

theorem Projects.advance (h : Projects D x c d) {th th' : Thread S} {e : S.Env} {σ : S.State}
    (ha : th.Addressed D) (hx : D.key th.op = x) (hadv : th.advance e c.shared = some (th', σ)) :
    ∃ τ, th.advance e d.shared = some (th', τ) ∧ D.view x τ = D.view x σ := by
  have hsame := h.advance_map ha hx e
  rw [hadv] at hsame
  obtain ⟨⟨u, τ⟩, hu, heq⟩ := Option.map_eq_some_iff.mp hsame
  obtain ⟨rfl, hview⟩ := Prod.mk.inj heq
  exact ⟨τ, hu, hview⟩

theorem Projects.advance_fst (h : Projects D x c d) {th : Thread S} (ha : th.Addressed D) (hx : D.key th.op = x)
    (e : S.Env) : (th.advance e d.shared).map Prod.fst = (th.advance e c.shared).map Prod.fst := by
  have hsame := congrArg (Option.map Prod.fst) (h.advance_map ha hx e)
  rwa [Option.map_map, Option.map_map] at hsame

theorem Projects.step (h : Projects D x c d) (ha : ∀ th ∈ c.threads, th.Addressed D)
    (hs : c.step l = some c') :
    ∃ d', d.run (labelOn D x (c.threads.map Thread.op) l).toList = some d' ∧ Projects D x c' d' := by
  cases l with
  | invoke op e =>
    obtain ⟨th, hadv, hth⟩ := Config.step_invoke hs
    have hop : th.op = op := by
      obtain ⟨_, _, _, -, -, rfl⟩ := Thread.advance_cases hadv
      rfl
    by_cases hx : D.key op = x
    · obtain ⟨τ, hu, hview⟩ := h.advance (Thread.start_addressed op) hx hadv
      have hon : onKey D x th = true := decide_eq_true (hop ▸ hx)
      refine ⟨⟨τ, d.threads ++ [th]⟩, ?_, ?_, hview⟩
      · simp [labelOn, hx, Config.run, Config.step, hu]
      · rw [hth, List.filter_append, List.filter_cons_of_pos hon, h.threads]
        rfl
    · have hoff : onKey D x th = false := decide_eq_false (hop ▸ hx)
      refine ⟨d, by simp [labelOn, hx, Config.run], ?_, ?_⟩
      · rw [hth, List.filter_append, List.filter_cons_of_neg (by simp [hoff]), h.threads]
        exact (List.append_nil _).symm
      · rw [h.view, Thread.advance_frame (Thread.start_addressed op) hadv (Ne.symm hx)]
  | run i e =>
    obtain ⟨th, th', hi, hadv, hth⟩ := Config.step_run hs
    have hop : th'.op = th.op := by
      obtain ⟨_, _, _, -, -, rfl⟩ := Thread.advance_cases hadv
      rfl
    have hmem : th ∈ c.threads := List.mem_of_getElem? hi
    by_cases hx : D.key th.op = x
    · have hon : onKey D x th = true := decide_eq_true hx
      have hon' : onKey D x th' = true := decide_eq_true (hop ▸ hx)
      obtain ⟨τ, hu, hview⟩ := h.advance (ha th hmem) hx hadv
      have hkept : keptIndex (fun op => decide (D.key op = x)) (c.threads.map Thread.op) i =
          keptIndex (onKey D x) c.threads i := by
        rw [keptIndex, ← List.map_take, List.countP_map]
        rfl
      have hget : d.threads[keptIndex (onKey D x) c.threads i]? = some th := by
        rw [h.threads]
        exact filter_getElem? hi hon
      refine ⟨⟨τ, d.threads.set (keptIndex (onKey D x) c.threads i) th'⟩, ?_, ?_, hview⟩
      · simp [labelOn, hi, hx, hkept, Config.run, Config.step, hget, hu]
      · rw [hth, h.threads]
        exact (filter_set hi hon hon').symm
    · have hoff : onKey D x th = false := decide_eq_false hx
      refine ⟨d, by simp [labelOn, hi, hx, Config.run], ?_, ?_⟩
      · rw [hth, h.threads]
        exact (filter_set_of_not hi hoff (decide_eq_false (hop ▸ hx))).symm
      · rw [h.view, Thread.advance_frame (ha th hmem) hadv (Ne.symm hx)]

theorem Projects.run {ls : List (Label S)} (h : Projects D x c d) (ha : ∀ th ∈ c.threads, th.Addressed D)
    (hr : c.run ls = some c') :
    ∃ d', d.run (labelsOn D x (c.threads.map Thread.op) ls) = some d' ∧ Projects D x c' d' := by
  induction ls generalizing c d with
  | nil =>
    cases hr
    exact ⟨d, rfl, h⟩
  | cons l ls ih =>
    obtain ⟨c₁, hs, hr⟩ := Option.bind_eq_some_iff.mp hr
    obtain ⟨d₁, hd₁, h₁⟩ := h.step ha hs
    obtain ⟨d', hd', h'⟩ := ih h₁ (Config.step_addressed ha hs) hr
    refine ⟨d', ?_, h'⟩
    rw [labelsOn, Config.run_append, hd₁, ← Config.step_calls hs]
    exact hd'

end Gr4ControlPlane.Interleaving
