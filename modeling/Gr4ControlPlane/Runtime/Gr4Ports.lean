import Gr4ControlPlane.Runtime.Gr4Calls

open Gr4ControlPlane.Interleaving

namespace Gr4ControlPlane

abbrev gr4System (yaml : YamlPmt) : System gr4Interface := (gr4RuntimeManager yaml).system gr4Machine

namespace Gr4RuntimeManager

variable {yaml : YamlPmt} {P : Gr4Policy} {c : Config (gr4System yaml)} {owners : PortOwners}

abbrev AnyGraph : Bytes → List RuntimeStreamBinding → Prop := fun _ _ => True

def discipline (P : Gr4Policy) (yaml : YamlPmt) :
    Discipline ((gr4Ownership P fun _ => AnyGraph).ownership (gr4RuntimeManager yaml)) where
  rest _ v := v.Rest P AnyGraph
  begins _ v := P.starts → v.MayStart
  ends _ _ v _ := v.Rest P AnyGraph
  report _ _ _ := True
  body := by
    rintro ⟨call, session⟩ v hv hmay
    cases call with
    | prepare => exact Action.wp_mono (fun _ _ _ h => h.1) (prepare_wp (fun _ _ _ => trivial) hv)
    | start => exact Action.wp_mono (fun _ _ _ h => h.1) (start_wp (fun _ _ _ => trivial) (fun _ _ _ => trivial) hv hmay)
    | stop => exact Action.wp_mono (fun _ _ _ h => h.1) (stop_wp hv)
    | destroy => exact Action.wp_mono (fun _ _ _ h => h.1) (destroy_wp hv)
  settles h := h
  reports _ := trivial

abbrev Owned (P : Gr4Policy) (c : Config (gr4System yaml)) (owners : PortOwners) : Prop :=
  Interleaving.Owned ((gr4Ownership P fun _ => AnyGraph).ownership (gr4RuntimeManager yaml)) (discipline P yaml) c owners

theorem reach_owned {ok : Config (gr4System yaml) → Label (gr4System yaml) → Config (gr4System yaml) → Prop}
    (hstarts : ¬ P.starts) (hper : ∀ {c l c'}, ok c l c' → PerSession c l)
    (hadm : ∀ {c l c'}, ok c l c' → ((gr4Ownership P fun _ => AnyGraph).ownership (gr4RuntimeManager yaml)).Admitted c')
    (h : Reach ok ⟨.init, []⟩ c) : ∃ owners, Owned P c owners := by
  refine Interleaving.Owned.reach ⟨_, Interleaving.Owned.initial Gr4State.good_init ?_⟩ hadm ?_ h
  · exact fun x => .absent fun _ => rfl
  · intro c c' g op e _ _ hok
    refine .inl ⟨?_, fun hP => absurd hP hstarts⟩
    rintro ⟨th, hth, ha, hkey⟩
    exact hper hok th hth ha hkey

theorem Owned.kept (h : Owned P c owners) (x : Bytes) :
    ∃ t, Gr4View.Kept P (c.shared.view x owners) t ∧
      ∀ binding ∈ handedBack t, ∃ th ∈ c.threads, th.active ∧ th.op.2.id = x ∧ binding ∈ handedBack th.trace := by
  by_cases hbusy : ((gr4Ownership P fun _ => AnyGraph).ownership (gr4RuntimeManager yaml)).Busy c x
  · obtain ⟨th, hth, ha, rfl⟩ := hbusy
    have hwp := (h.active th hth ha).2
    obtain ⟨cmd, k, hp⟩ := Thread.active_iff.mp ha
    rw [hp] at hwp
    exact ⟨th.trace, hwp.1.1, fun binding hb => ⟨th, hth, ha, rfl, hb⟩⟩
  · exact ⟨[], kept_rest (h.idle x hbusy), fun binding hb => by cases hb⟩

abbrev Serialized (c : Config (gr4System yaml)) (l : Label (gr4System yaml)) (_ : Config (gr4System yaml)) : Prop :=
  PerSession c l

def Holds (c : Config (gr4System yaml)) (x : Bytes) (i : Nat) (binding : RuntimeStreamBinding) : Prop :=
  (c.shared.entry x).bind (·.2.streamBindings[i]?) = some binding

theorem holds_iff {x : Bytes} {i : Nat} {binding : RuntimeStreamBinding} :
    Holds c x i binding ↔ ∃ a r, c.shared.entry x = some (a, r) ∧ r.streamBindings[i]? = some binding := by
  rw [Holds, Option.bind_eq_some_iff]
  exact ⟨fun ⟨e, he, hi⟩ => ⟨e.1, e.2, he, hi⟩, fun ⟨a, r, he, hi⟩ => ⟨(a, r), he, hi⟩⟩

/-- A call under way has given the binding back and is about to clear the list it is in. -/
def GivenBack (c : Config (gr4System yaml)) (x : Bytes) (binding : RuntimeStreamBinding) : Prop :=
  ∃ th ∈ c.threads, th.active ∧ th.op.2.id = x ∧ binding.internal ∈ handedBack th.trace

instance {x : Bytes} {binding : RuntimeStreamBinding} : Decidable (GivenBack c x binding) :=
  inferInstanceAs (Decidable (∃ th ∈ c.threads, th.active ∧ th.op.2.id = x ∧ binding.internal ∈ handedBack th.trace))

theorem Owned.holds (h : Owned P c owners) {x : Bytes} {i : Nat} {binding : RuntimeStreamBinding}
    (hb : Holds c x i binding) (hback : ¬ GivenBack c x binding) : binding.internal.port ∈ owners x := by
  obtain ⟨a, r, hx, hi⟩ := holds_iff.mp hb
  obtain ⟨t, hkept, hpass⟩ := h.kept x
  refine (hkept a r hx).held binding (List.mem_of_getElem? hi) fun hmem => hback ?_
  exact hpass _ hmem

theorem Owned.holds_apart (h : Owned P c owners) {x y : Bytes} {i j : Nat} {b b' : RuntimeStreamBinding}
    (hb : Holds c x i b) (hb' : Holds c y j b') (hback : ¬ GivenBack c x b) (hback' : ¬ GivenBack c y b')
    (hne : (x, i) ≠ (y, j)) : b.internal.port ≠ b'.internal.port := by
  intro heq
  have hxy : x = y := h.good.single x y _ (h.holds hb hback) (heq ▸ h.holds hb' hback')
  subst hxy
  obtain ⟨t, hkept, -⟩ := h.kept x
  obtain ⟨a, r, hx, hi⟩ := holds_iff.mp hb
  obtain ⟨a', r', hx', hj⟩ := holds_iff.mp hb'
  cases hx.symm.trans hx'
  -- both are bindings of one session, whose ports are all different
  have hport : ∀ {k : Nat} {b : RuntimeStreamBinding}, r.streamBindings[k]? = some b →
      (ports r.streamBindings)[k]? = some b.internal.port := by
    intro k b hk
    rw [ports, List.getElem?_map, hk]
    rfl
  have hlt : i < (ports r.streamBindings).length := (List.getElem?_eq_some_iff.mp (hport hi)).1
  have hij : i = j := (List.getElem?_inj hlt (hkept a r hx).nodup).mp (by rw [hport hi, hport hj, heq])
  exact hne (by rw [hij])

theorem ports_apart (h : Reach Serialized ⟨.init, []⟩ c) :
    (∀ x i b, Holds c x i b → ¬ GivenBack c x b → b.internal.port ∈ c.shared.streamAllocator.allocatedPorts) ∧
      ∀ x i b y j b', Holds c x i b → Holds c y j b' → ¬ GivenBack c x b → ¬ GivenBack c y b' →
        (x, i) ≠ (y, j) → b.internal.port ≠ b'.internal.port := by
  obtain ⟨owners, hown⟩ := reach_owned (P := ⟨False, False, False, False⟩) id (fun hok => hok)
    (fun _ _ _ _ _ _ => ⟨False.elim, False.elim, False.elim⟩) h
  refine ⟨fun x i b hb hback => (hown.good.owned _).mpr ⟨x, hown.holds hb hback⟩, ?_⟩
  intro x i b y j b' hb hb' hback hback' hne
  exact hown.holds_apart hb hb' hback hback' hne

section

def demoGraph : Bytes :=
  ascii "blocks:\n- id: FileSink\n  parameters:\n    name: spectrum\n    transport: http_snapshot\n    payload_format: json\n- id: FileSink\n  parameters:\n    name: audio\n    transport: websocket\n    payload_format: pcm\n"

def demoBlock (name transport payloadFormat : Bytes) : Value :=
  .map [(ascii "id", .string (ascii "FileSink")),
    (ascii "parameters", .map [(ascii "name", .string name), (ascii "transport", .string transport),
      (ascii "payload_format", .string payloadFormat)])]

def demoText (entries : PropertyMap) (key : Bytes) : Bytes := (parameterString entries key).getD []

def demoLines : Value → Bytes
  | .map block =>
    let parameters := blockMap block (ascii "parameters")
    ascii "- id: " ++ demoText block (ascii "id") ++ ascii "\n  parameters:\n" ++
      parameters.flatMap fun e => ascii "    " ++ e.1 ++ ascii ": " ++ demoText parameters e.1 ++ ascii "\n"
  | _ => []

def demoYaml : YamlPmt where
  deserialize content :=
    if content = demoGraph then
      some [(ascii "blocks", .tensor [demoBlock (ascii "spectrum") (ascii "http_snapshot") (ascii "json"),
        demoBlock (ascii "audio") (ascii "websocket") (ascii "pcm")])]
    else none
  serialize root :=
    ascii "blocks:\n" ++ (((root.find (ascii "blocks")).bind Value.getTensor).getD []).flatMap demoLines
  same _ _ := true

def demoSession (id : String) : Session where
  id := ascii id
  name := ascii "demo"
  grcContent := demoGraph
  schedulerAlias := none
  state := .stopped
  lastError := none
  createdAt := 1
  updatedAt := 1

def demoEnv (port : Nat) : Gr4Env := ⟨fun _ => .ok port, .ok (), [], true⟩

def demoPrepare (i : Nat) (session : Session) (port port' : Nat) : List (Label (gr4System demoYaml)) :=
  .invoke (.prepare, session) (demoEnv 0) :: List.replicate 5 (.run i (demoEnv 0)) ++
    [.run i (demoEnv port), .run i (demoEnv port')] ++ List.replicate 6 (.run i (demoEnv 0))

def sharedRun : List (Label (gr4System demoYaml)) :=
  demoPrepare 0 (demoSession "x") 40001 40002 ++
    .invoke (.stop, demoSession "x") (demoEnv 0) :: List.replicate 6 (.run 1 (demoEnv 0)) ++
    demoPrepare 2 (demoSession "y") 40001 40003

def sharedConfig : Config (gr4System demoYaml) :=
  (Config.runOk Serialized ⟨.init, []⟩ sharedRun).get (by decide +kernel)

theorem reach_sharedConfig : Reach Serialized ⟨.init, []⟩ sharedConfig :=
  .of_runOk .init (Option.some_get _).symm

attribute [irreducible] sharedConfig

def sharedBinding : RuntimeStreamBinding :=
  ((sharedConfig.shared.entry (ascii "x")).bind (·.2.streamBindings[0]?)).get (by decide +kernel)

def sharedBinding' : RuntimeStreamBinding :=
  ((sharedConfig.shared.entry (ascii "y")).bind (·.2.streamBindings[0]?)).get (by decide +kernel)

theorem ports_shared : ¬ ∀ (yaml : YamlPmt) (c : Config (gr4System yaml)), Reach Serialized ⟨.init, []⟩ c →
    ∀ x i b y j b', Holds c x i b → Holds c y j b' → (x, i) ≠ (y, j) → b.internal.port ≠ b'.internal.port := by
  intro h
  have hports : sharedBinding.internal.port = sharedBinding'.internal.port := by decide +kernel
  exact h demoYaml sharedConfig reach_sharedConfig (ascii "x") 0 sharedBinding (ascii "y") 0 sharedBinding'
    (Option.some_get _).symm (Option.some_get _).symm (by decide) hports

theorem not_givenBack_shared : ¬ GivenBack sharedConfig (ascii "y") sharedBinding' := by decide +kernel

theorem ports_apart_shared : sharedBinding'.internal.port ∈ sharedConfig.shared.streamAllocator.allocatedPorts :=
  (ports_apart reach_sharedConfig).1 (ascii "y") 0 sharedBinding' (Option.some_get _).symm not_givenBack_shared

end

def abandoned : Trace gr4Interface → Bool
  | [] => false
  | ev :: t => portsTaken t && abandons ev

/-- No call is cut short where it would not give its ports back. -/
abbrev Keeping (c : Config (gr4System yaml)) (l : Label (gr4System yaml)) (c' : Config (gr4System yaml)) : Prop :=
  PerSession c l ∧ ∀ th ∈ c'.threads, abandoned th.trace = false

theorem ports_exact (h : Reach Keeping ⟨.init, []⟩ c) (hidle : ∀ th ∈ c.threads, th.active = false) (port : Nat) :
    port ∈ c.shared.streamAllocator.allocatedPorts ↔ ∃ x i b, Holds c x i b ∧ b.internal.port = port := by
  have hadm : ∀ {c l c'}, Keeping c l c' → ((gr4Ownership ⟨False, True, False, False⟩ fun _ => AnyGraph).ownership
      (gr4RuntimeManager yaml)).Admitted c' := by
    intro c l c' hok th hth ev t htrace
    refine ⟨False.elim, fun _ htaken => ?_, False.elim⟩
    have hkept := hok.2 th hth
    rwa [htrace, abandoned, htaken, Bool.true_and] at hkept
  obtain ⟨owners, hown⟩ := reach_owned id (fun hok => hok.1) hadm h
  rw [hown.good.owned]
  constructor
  · rintro ⟨x, hport⟩
    have hrest := hown.idle x fun ⟨th, hth, ha, _⟩ => by simp [hidle th hth] at ha
    obtain ⟨a, r, hx, hmem⟩ := hrest.own_held trivial hport
    obtain ⟨b, hb, rfl⟩ := List.mem_map.mp hmem
    obtain ⟨i, hi⟩ := List.mem_iff_getElem?.mp hb
    exact ⟨x, i, b, holds_iff.mpr ⟨a, r, hx, hi⟩, rfl⟩
  · rintro ⟨x, i, b, hb, rfl⟩
    refine ⟨x, hown.holds hb ?_⟩
    rintro ⟨th, hth, ha, -⟩
    simp [hidle th hth] at ha

section

def keptConfig : Config (gr4System demoYaml) :=
  (Config.runOk Keeping ⟨.init, []⟩ (demoPrepare 0 (demoSession "x") 40001 40002)).get (by decide +kernel)

theorem reach_keptConfig : Reach Keeping ⟨.init, []⟩ keptConfig :=
  .of_runOk .init (Option.some_get _).symm

theorem ports_exact_kept : 40002 ∈ keptConfig.shared.streamAllocator.allocatedPorts ↔
    ∃ x i b, Holds keptConfig x i b ∧ b.internal.port = 40002 :=
  ports_exact reach_keptConfig (by decide +kernel) 40002

def leakedRun : List (Label (gr4System demoYaml)) :=
  .invoke (.prepare, demoSession "x") (demoEnv 0) :: List.replicate 5 (.run 0 (demoEnv 0)) ++
    [.run 0 (demoEnv 40001),
      .run 0 { demoEnv 0 with reserve := fun _ => .error (ascii "failed to bind ephemeral loopback port for stream") },
      .run 0 (demoEnv 0)]

def leakedConfig : Config (gr4System demoYaml) :=
  (Config.runOk Serialized ⟨.init, []⟩ leakedRun).get (by decide +kernel)

theorem reach_leakedConfig : Reach Serialized ⟨.init, []⟩ leakedConfig :=
  .of_runOk .init (Option.some_get _).symm

theorem ports_leaked : ¬ ∀ (yaml : YamlPmt) (c : Config (gr4System yaml)), Reach Serialized ⟨.init, []⟩ c →
    (∀ th ∈ c.threads, th.active = false) → ∀ port, port ∈ c.shared.streamAllocator.allocatedPorts ↔
      ∃ x i b, Holds c x i b ∧ b.internal.port = port := by
  intro h
  have hbare : ∀ r ∈ leakedConfig.shared.heap, r.streamBindings = [] := by decide +kernel
  obtain ⟨x, i, b, hb, -⟩ := (h demoYaml leakedConfig reach_leakedConfig (by decide +kernel) 40001).mp (by decide +kernel)
  obtain ⟨a, r, hx, hi⟩ := holds_iff.mp hb
  rw [hbare r (List.mem_of_getElem? (Gr4State.entry_iff.mp hx).2)] at hi
  cases hi

end

end Gr4RuntimeManager

end Gr4ControlPlane
