import Gr4ControlPlane.Interleaving.System

/-! Calls that own what they work on.  Every call has a key, the shared state shows one
view per key, and a call only changes the view of its own key.  If at most one call per
key is under way at a time, each call can be verified as a sequential program on its
view, and what it establishes at its end holds until the next call on that key. -/

namespace Gr4ControlPlane.Interleaving

variable {I : Interface} {S : System I} {K V G : Type}

/-- `G` is ghost state: the views may record who owns what, which no command reads. -/
structure Ownership (S : System I) (K V G : Type) where
  key : S.Op → K
  view : K → S.State → G → V
  good : S.State → G → Prop
  loc : K → Local I V
  sound : ∀ {x c e σ g t r σ'}, good σ g → (loc x).pre c (view x σ g) t →
    S.exec c e σ = some (r, σ') →
    ∃ g', good σ' g' ∧ (loc x).post c (view x σ g) r (view x σ' g') ∧
      ∀ y, y ≠ x → view y σ' g' = view y σ g

/-- What holds of a view between calls, what a call leaves behind, and what its history
then shows. -/
structure Discipline (O : Ownership S K V G) where
  rest : K → V → Prop
  begins : S.Op → V → Prop
  ends : S.Op → S.Result → V → Trace I → Prop
  report : S.Op → S.Result → Trace I → Prop
  body : ∀ op v, rest (O.key op) v → begins op v →
    (S.body op).wp (O.loc (O.key op)) (ends op) v []
  settles : ∀ {op r v t}, ends op r v t → rest (O.key op) v
  reports : ∀ {op r v t}, ends op r v t → report op r t

def Ownership.Admitted (O : Ownership S K V G) (c : Config S) : Prop :=
  ∀ th ∈ c.threads, ∀ ev t, th.trace = ev :: t → (O.loc (O.key th.op)).admits t ev

def Discipline.Refuses {O : Ownership S K V G} (D : Discipline O) (op : S.Op) (e : S.Env)
    (σ σ' : S.State) (g : G) : Prop :=
  ∀ th, (Thread.start op).advance e σ = some (th, σ') →
    (∃ a, th.prog = .ret a ∧ D.report op a th.trace) ∧
    ∃ g', O.good σ' g' ∧ ∀ y, O.view y σ' g' = O.view y σ g

def Ownership.Busy (O : Ownership S K V G) (c : Config S) (x : K) : Prop :=
  ∃ th ∈ c.threads, th.active ∧ O.key th.op = x

structure Owned (O : Ownership S K V G) (D : Discipline O) (c : Config S) (g : G) : Prop where
  good : O.good c.shared g
  unique : ∀ {i j : Nat} {th th' : Thread S}, c.threads[i]? = some th → c.threads[j]? = some th' →
    th.active → th'.active → O.key th.op = O.key th'.op → i = j
  active : ∀ th ∈ c.threads, th.active → th.trace ≠ [] ∧
    th.prog.wp (O.loc (O.key th.op)) (D.ends th.op) (O.view (O.key th.op) c.shared g) th.trace
  closed : ∀ th ∈ c.threads, ∀ a, th.prog = .ret a → D.report th.op a th.trace
  idle : ∀ x, ¬ O.Busy c x → D.rest x (O.view x c.shared g)

variable {O : Ownership S K V G} {D : Discipline O}

theorem Ownership.advance {th th' : Thread S} {e : S.Env} {σ σ' : S.State} {g : G}
    (h : th.advance e σ = some (th', σ')) (hg : O.good σ g)
    (hw : th.prog.wp (O.loc (O.key th.op)) (D.ends th.op) (O.view (O.key th.op) σ g) th.trace)
    (ha : ∀ ev t, th'.trace = ev :: t → (O.loc (O.key th.op)).admits t ev) :
    ∃ g', O.good σ' g' ∧ th'.op = th.op ∧ th'.trace ≠ [] ∧
      th'.prog.wp (O.loc (O.key th.op)) (D.ends th.op) (O.view (O.key th.op) σ' g') th'.trace ∧
      ∀ y, y ≠ O.key th.op → O.view y σ' g' = O.view y σ g := by
  obtain ⟨c, k, r, hp, hr, rfl⟩ := Thread.advance_cases h
  rw [hp, Program.wp_step] at hw
  obtain ⟨g', hg', hpost, hframe⟩ := O.sound hg hw.1 hr
  exact ⟨g', hg', rfl, List.cons_ne_nil _ _, hw.2 r _ hpost (ha _ _ rfl), hframe⟩

theorem Thread.wp_ret {th : Thread S} {L : Local I V} {Q : S.Result → V → Trace I → Prop}
    {v : V} {a : S.Result} (h : th.prog = .ret a) (hw : th.prog.wp L Q v th.trace) :
    Q a v th.trace := by
  simpa [h] using hw

theorem Ownership.Busy.intro {c : Config S} {th : Thread S} (h : th ∈ c.threads)
    (ha : th.active) : O.Busy c (O.key th.op) := ⟨th, h, ha, rfl⟩

namespace Owned

variable {c c' : Config S} {g : G}

theorem run_step {i : Nat} {e : S.Env} (h : Owned O D c g) (hs : c.step (.run i e) = some c')
    (ha : O.Admitted c') : ∃ g', Owned O D c' g' := by
  obtain ⟨th, th', hi, hadv, hth⟩ := Config.step_run hs
  have hlt : i < c.threads.length := (List.getElem?_eq_some_iff.mp hi).1
  have hact := Thread.advance_active hadv
  have hmem : th ∈ c.threads := List.mem_of_getElem? hi
  have hmem' : th' ∈ c'.threads := by rw [hth]; exact List.mem_set hlt th'
  have hop' : th'.op = th.op := by
    obtain ⟨_, _, _, _, _, rfl⟩ := Thread.advance_cases hadv; rfl
  obtain ⟨g', hg', hop, hne, hw, hframe⟩ := O.advance hadv h.good (h.active th hmem hact).2
    (fun ev t ht => hop' ▸ ha th' hmem' ev t ht)
  -- any other active call has another key, so its view has not moved
  have hother : ∀ j u, j ≠ i → c.threads[j]? = some u → u.active → O.key u.op ≠ O.key th.op :=
    fun j u hj hu hua hk => hj (h.unique hu hi hua hact hk)
  have hlook : ∀ j u, c'.threads[j]? = some u →
      (j = i ∧ u = th') ∨ (j ≠ i ∧ c.threads[j]? = some u) :=
    fun _ _ hu => Config.lookup_run hlt (hth ▸ hu)
  refine ⟨g', hg', ?_, ?_, ?_, ?_⟩
  · intro j k u u' hj hk hu hu' hkey
    rcases hlook j u hj with ⟨rfl, rfl⟩ | ⟨hji, hj⟩ <;>
      rcases hlook k u' hk with ⟨rfl, rfl⟩ | ⟨hki, hk⟩
    · rfl
    · exact absurd (hop ▸ hkey.symm) (hother k u' hki hk hu')
    · exact absurd (hop ▸ hkey) (hother j u hji hj hu)
    · exact h.unique hj hk hu hu' hkey
  · intro u hu hua
    obtain ⟨j, hj⟩ := List.mem_iff_getElem?.mp hu
    rcases hlook j u hj with ⟨rfl, rfl⟩ | ⟨hji, hj⟩
    · exact ⟨hne, by rw [hop]; exact hw⟩
    · have hu := h.active u (List.mem_of_getElem? hj) hua
      exact ⟨hu.1, by rw [hframe _ (hother j u hji hj hua)]; exact hu.2⟩
  · intro u hu a hret
    obtain ⟨j, hj⟩ := List.mem_iff_getElem?.mp hu
    rcases hlook j u hj with ⟨rfl, rfl⟩ | ⟨-, hj⟩
    · rw [hop]
      exact D.reports (Thread.wp_ret hret hw)
    · exact h.closed u (List.mem_of_getElem? hj) a hret
  · intro x hx
    by_cases hk : x = O.key th.op
    · subst hk
      have hfin : th'.active = false := by
        by_contra hc
        exact hx ⟨th', hmem', by simpa using hc, by rw [hop]⟩
      obtain ⟨a, hret⟩ := Thread.inactive_iff.mp hfin
      exact D.settles (Thread.wp_ret hret hw)
    · rw [hframe x hk]
      refine h.idle x fun ⟨u, hu, hua, hux⟩ => ?_
      obtain ⟨j, hj⟩ := List.mem_iff_getElem?.mp hu
      have hji : j ≠ i := by
        rintro rfl
        rw [hi] at hj
        exact hk (by rw [← hux, Option.some.inj hj])
      exact hx ⟨u, List.mem_of_getElem? (i := j) (by rw [hth, List.getElem?_set_ne hji.symm, hj]),
        hua, hux⟩

theorem busy_of_invoked {th : Thread S} (hth : c'.threads = c.threads ++ [th]) {x : K}
    (hx : O.Busy c x) : O.Busy c' x := by
  obtain ⟨u, hu, hua, hux⟩ := hx
  exact ⟨u, by simp [hth, hu], hua, hux⟩

theorem invoke_free {op : S.Op} {e : S.Env} (h : Owned O D c g)
    (hs : c.step (.invoke op e) = some c') (ha : O.Admitted c') (hfree : ¬ O.Busy c (O.key op))
    (hb : D.begins op (O.view (O.key op) c.shared g)) : ∃ g', Owned O D c' g' := by
  obtain ⟨th, hadv, hth⟩ := Config.step_invoke hs
  have hmem' : th ∈ c'.threads := by simp [hth]
  have hop' : th.op = op := by
    obtain ⟨_, _, _, _, _, rfl⟩ := Thread.advance_cases hadv; rfl
  obtain ⟨g', hg', -, hne, hw, hframe⟩ := O.advance (D := D) hadv h.good
    (D.body op _ (h.idle _ hfree) hb) (fun ev t ht => hop' ▸ ha th hmem' ev t ht)
  have hother : ∀ u ∈ c.threads, u.active → O.key u.op ≠ O.key op :=
    fun u hu hua hk => hfree ⟨u, hu, hua, hk⟩
  refine ⟨g', hg', ?_, ?_, ?_, ?_⟩
  · intro j k u u' hj hk hu hu' hkey
    rcases Config.lookup_invoke (hth ▸ hj) with hj | ⟨rfl, rfl⟩ <;>
      rcases Config.lookup_invoke (hth ▸ hk) with hk | ⟨rfl, rfl⟩
    · exact h.unique hj hk hu hu' hkey
    · exact absurd (hop' ▸ hkey) (hother u (List.mem_of_getElem? hj) hu)
    · exact absurd (hop' ▸ hkey.symm) (hother u' (List.mem_of_getElem? hk) hu')
    · rfl
  · intro u hu hua
    rcases Config.mem_invoke (hth ▸ hu) with hu | rfl
    · rw [hframe _ (hother u hu hua)]
      exact h.active u hu hua
    · exact ⟨hne, by rw [hop']; exact hw⟩
  · intro u hu a hret
    rcases Config.mem_invoke (hth ▸ hu) with hu | rfl
    · exact h.closed u hu a hret
    · rw [hop']
      exact D.reports (Thread.wp_ret hret hw)
  · intro x hx
    by_cases hk : x = O.key op
    · subst hk
      have hfin : th.active = false := by
        by_contra hc
        exact hx ⟨th, hmem', by simpa using hc, by rw [hop']⟩
      obtain ⟨a, hret⟩ := Thread.inactive_iff.mp hfin
      exact D.settles (Thread.wp_ret hret hw)
    · rw [hframe x hk]
      exact h.idle x fun hx' => hx (busy_of_invoked hth hx')

theorem invoke_refused {op : S.Op} {e : S.Env} (h : Owned O D c g)
    (hs : c.step (.invoke op e) = some c') (href : D.Refuses op e c.shared c'.shared g) :
    ∃ g', Owned O D c' g' := by
  obtain ⟨th, hadv, hth⟩ := Config.step_invoke hs
  obtain ⟨⟨a, hret, hrep⟩, g', hg', hview⟩ := href th hadv
  have hfin : th.active = false := Thread.inactive_iff.mpr ⟨a, hret⟩
  have hop' : th.op = op := by
    obtain ⟨_, _, _, _, _, rfl⟩ := Thread.advance_cases hadv; rfl
  refine ⟨g', hg', ?_, ?_, ?_, ?_⟩
  · intro j k u u' hj hk hu hu' hkey
    rcases Config.lookup_invoke (hth ▸ hj) with hj | ⟨-, rfl⟩
    · rcases Config.lookup_invoke (hth ▸ hk) with hk | ⟨-, rfl⟩
      · exact h.unique hj hk hu hu' hkey
      · exact absurd hu' (by simp [hfin])
    · exact absurd hu (by simp [hfin])
  · intro u hu hua
    rcases Config.mem_invoke (hth ▸ hu) with hu | rfl
    · rw [hview]
      exact h.active u hu hua
    · exact absurd hua (by simp [hfin])
  · intro u hu b hb
    rcases Config.mem_invoke (hth ▸ hu) with hu | rfl
    · exact h.closed u hu b hb
    · rw [hop']
      exact (by rw [hret] at hb; cases hb; exact hrep)
  · intro x hx
    rw [hview]
    exact h.idle x fun hx' => hx (busy_of_invoked hth hx')

/-- Exclusive use of keys is kept by every run in which a call on a busy key is refused. -/
theorem reach {ok : Config S → Label S → Config S → Prop} {c₀ : Config S}
    (hinit : ∃ g, Owned O D c₀ g) (hadm : ∀ {c l c'}, ok c l c' → O.Admitted c')
    (hinv : ∀ {c c' g op e}, Owned O D c g → c.step (.invoke op e) = some c' →
      ok c (.invoke op e) c' →
      (¬ O.Busy c (O.key op) ∧ D.begins op (O.view (O.key op) c.shared g)) ∨
        D.Refuses op e c.shared c'.shared g)
    (h : Reach ok c₀ c) : ∃ g, Owned O D c g := by
  induction h with
  | init => exact hinit
  | @step c l c' _ hs hok ih =>
    obtain ⟨g, hg⟩ := ih
    cases l with
    | run i e => exact hg.run_step hs (hadm hok)
    | invoke op e =>
      rcases hinv hg hs hok with ⟨hfree, hb⟩ | href
      · exact hg.invoke_free hs (hadm hok) hfree hb
      · exact hg.invoke_refused hs href

theorem initial {σ : S.State} (hg : O.good σ g) (hr : ∀ x, D.rest x (O.view x σ g)) :
    Owned O D ⟨σ, []⟩ g where
  good := hg
  unique h := by simp at h
  active th h := by simp at h
  closed th h := by simp at h
  idle x _ := hr x

end Owned

end Gr4ControlPlane.Interleaving
