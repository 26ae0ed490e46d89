import Gr4ControlPlane.Runtime.AcceptedGraphs
import Gr4ControlPlane.Runtime.PortTokens

namespace Gr4ControlPlane

variable {yaml : YamlPmt} {token : Bytes} {sequence sequence' : List Value} {index : Nat} {changed : Bool}
  {connection connection' : Value} {map : PropertyMap}

def InRange (token : Bytes) : Prop := ∀ digits ∈ token.tails, Numeral digits → Fits digits

instance : Decidable (InRange token) :=
  inferInstanceAs (Decidable (∀ digits ∈ token.tails, Numeral digits → Fits digits))

/-- How GNU Radio compares a value with a text. -/
def ComparesText (yaml : YamlPmt) : Prop := ∀ value token, yaml.same value (.string token) ↔ value = .string token

theorem normalizePort_inRange (h : InRange token) : ∃ value, normalizePort token = .ok value := by
  have hstoll : ∀ digits, digits <:+ token → Numeral digits → ∃ value, Value.integer <$> stoll digits = .ok value := by
    intro digits hsuffix hdigits
    rw [stoll_of_fits (h digits (List.mem_tails _ _ |>.mpr hsuffix) hdigits)]
    exact ⟨_, rfl⟩
  unfold normalizePort
  dsimp only
  split_ifs with hin hdigits hsuffix
  · exact ⟨_, rfl⟩
  · exact hstoll token (List.suffix_refl _) hdigits
  · refine hstoll _ ?_ hsuffix.2.2
    rw [← List.reverse_prefix, afterLast, List.reverse_reverse]
    exact List.takeWhile_prefix _
  · exact ⟨_, rfl⟩

theorem normalizePort_ok {value : Value} (h : normalizePort token = .ok value) :
    value = .string token ∨ ∃ n, value = .integer n := by
  have hstoll : ∀ digits, Value.integer <$> stoll digits = .ok value → ∃ n, value = .integer n := by
    intro digits hok
    cases hd : stoll digits with
    | error what => rw [hd] at hok; cases hok
    | ok n =>
      rw [hd] at hok
      exact ⟨n, (Except.ok.inj hok).symm⟩
  unfold normalizePort at h
  dsimp only at h
  split_ifs at h
  · exact .inr ⟨0, (Except.ok.inj h).symm⟩
  · exact .inr (hstoll _ h)
  · exact .inr (hstoll _ h)
  · exact .inl (Except.ok.inj h).symm

theorem normalizeEntry_text (h : sequence[index]? = some (.string token)) :
    normalizeEntry yaml sequence index =
      normalizePort token >>= fun value => .ok (sequence.set index value, !yaml.same value (.string token)) := by
  unfold normalizeEntry
  rw [h]
  rfl

theorem normalizeEntry_other (h : ∀ token, sequence[index]? ≠ some (.string token)) :
    normalizeEntry yaml sequence index = .ok (sequence, false) := by
  unfold normalizeEntry
  cases hvalue : sequence[index]? with
  | none => rfl
  | some value =>
    cases value with
    | string token => exact absurd hvalue (h token)
    | _ => rfl

def PortSettled (sequence : List Value) (index : Nat) : Prop :=
  ∀ token, sequence[index]? = some (.string token) → normalizePort token = .ok (.string token)

theorem normalizeEntry_settled (hsame : ComparesText yaml) (h : PortSettled sequence index) :
    normalizeEntry yaml sequence index = .ok (sequence, false) := by
  by_cases htext : ∃ token, sequence[index]? = some (.string token)
  · obtain ⟨token, htoken⟩ := htext
    have hset : sequence.set index (.string token) = sequence := by
      apply List.ext_getElem?
      intro j
      grind
    rw [normalizeEntry_text htoken, h token htoken]
    simp [bind, Except.bind, hset, (hsame _ token).mpr rfl]
  · exact normalizeEntry_other fun token htoken => htext ⟨token, htoken⟩

structure EntryNormalized (sequence sequence' : List Value) (index : Nat) (changed : Bool) : Prop where
  length : sequence'.length = sequence.length
  others : ∀ j ≠ index, sequence'[j]? = sequence[j]?
  settled : PortSettled sequence' index
  changed_iff : changed ↔ sequence' ≠ sequence

theorem normalizeEntry_ok (hsame : ComparesText yaml)
    (h : normalizeEntry yaml sequence index = .ok (sequence', changed)) :
    EntryNormalized sequence sequence' index changed := by
  by_cases htext : ∃ token, sequence[index]? = some (.string token)
  · obtain ⟨token, htoken⟩ := htext
    rw [normalizeEntry_text htoken] at h
    obtain ⟨value, hvalue, heq⟩ := bind_eq_ok h
    cases heq
    have hentry : (sequence.set index value)[index]? = some value := by
      rw [List.getElem?_set_self]
      exact (List.getElem?_eq_some_iff.mp htoken).1
    refine ⟨List.length_set, fun j hj => List.getElem?_set_ne hj.symm, ?_, ?_⟩
    · intro token' htoken'
      rw [hentry] at htoken'
      obtain rfl := Option.some.inj htoken'
      rcases normalizePort_ok hvalue with h | ⟨n, h⟩
      · cases h
        exact hvalue
      · cases h
    · rw [Bool.not_eq_true', ← Bool.not_eq_true, hsame]
      apply not_congr
      constructor
      · intro hkept
        apply List.ext_getElem?
        intro j
        grind
      · intro hkept
        rw [hkept, htoken] at hentry
        exact (Option.some.inj hentry).symm
  · have hother : ∀ token, sequence[index]? ≠ some (.string token) := fun token htoken => htext ⟨token, htoken⟩
    rw [normalizeEntry_other hother] at h
    cases h
    exact ⟨rfl, fun _ _ => rfl, fun token htoken => absurd htoken (hother token), by simp⟩

theorem normalizeConnection_sequence (h : 4 ≤ sequence.length) :
    normalizeConnection yaml (.tensor sequence) =
      normalizeEntry yaml sequence 1 >>= fun p => normalizeEntry yaml p.1 3 >>= fun q =>
        .ok (.tensor q.1, p.2 || q.2) := by
  unfold normalizeConnection
  dsimp only
  rw [if_pos h]
  rfl

theorem normalizeConnection_short (h : ¬ 4 ≤ sequence.length) :
    normalizeConnection yaml (.tensor sequence) = .ok (.tensor sequence, false) := by
  unfold normalizeConnection
  dsimp only
  rw [if_neg h]

theorem normalizeConnection_settled (hsame : ComparesText yaml) (hsource : PortSettled sequence 1)
    (hdest : PortSettled sequence 3) :
    normalizeConnection yaml (.tensor sequence) = .ok (.tensor sequence, false) := by
  by_cases hlength : 4 ≤ sequence.length
  · rw [normalizeConnection_sequence hlength, normalizeEntry_settled hsame hsource]
    dsimp only [bind, Except.bind]
    rw [normalizeEntry_settled hsame hdest]
    rfl
  · exact normalizeConnection_short hlength

structure SequenceNormalized (sequence sequence' : List Value) (changed : Bool) : Prop where
  again : ∀ yaml, ComparesText yaml → normalizeConnection yaml (.tensor sequence') = .ok (.tensor sequence', false)
  changed_iff : changed ↔ sequence' ≠ sequence

theorem normalizeConnection_tensor (hsame : ComparesText yaml)
    (h : normalizeConnection yaml (.tensor sequence) = .ok (connection', changed)) :
    ∃ sequence', connection' = .tensor sequence' ∧ SequenceNormalized sequence sequence' changed := by
  by_cases hlength : 4 ≤ sequence.length
  · rw [normalizeConnection_sequence hlength] at h
    obtain ⟨⟨middle, changed₁⟩, hsource, h⟩ := bind_eq_ok h
    obtain ⟨⟨sequence', changed₂⟩, hdest, h⟩ := bind_eq_ok h
    cases h
    have source := normalizeEntry_ok hsame hsource
    have dest := normalizeEntry_ok hsame hdest
    refine ⟨sequence', rfl, fun yaml' hsame' => ?_, ?_⟩
    · apply normalizeConnection_settled hsame' _ dest.settled
      intro token htoken
      rw [dest.others 1 (by decide)] at htoken
      exact source.settled token htoken
    · rw [Bool.or_eq_true, source.changed_iff, dest.changed_iff]
      constructor
      · -- the entry at 1 stays as the first pass left it
        rintro hne rfl
        have hmiddle : middle = sequence' := by
          apply List.ext_getElem?
          intro j
          by_cases hj : j = 1
          · subst hj
            exact (dest.others 1 (by decide)).symm
          · exact source.others j hj
        rcases hne with hne | hne
        · exact hne hmiddle
        · exact hne hmiddle.symm
      · intro hne
        by_contra hnone
        rw [not_or, not_not, not_not] at hnone
        exact hne (hnone.2.trans hnone.1)
  · rw [normalizeConnection_short hlength] at h
    cases h
    exact ⟨sequence, rfl, fun _ _ => normalizeConnection_short hlength, by simp⟩

structure Connects (map : PropertyMap) (sourceBlock sourcePort destBlock destPort : Bytes) : Prop where
  sourceBlock : parameterString map (ascii "source_block") = some sourceBlock
  sourcePort : parameterString map (ascii "source_port_token") = some sourcePort
  destBlock : parameterString map (ascii "dest_block") = some destBlock
  destPort : parameterString map (ascii "dest_port_token") = some destPort

variable {sourceBlock sourcePort destBlock destPort : Bytes}

theorem normalizeConnection_map (h : Connects map sourceBlock sourcePort destBlock destPort) :
    normalizeConnection yaml (.map map) =
      normalizePort sourcePort >>= fun source => normalizePort destPort >>= fun dest =>
        .ok (.tensor [.string sourceBlock, source, .string destBlock, dest], true) := by
  unfold normalizeConnection
  dsimp only
  rw [h.sourceBlock, h.sourcePort, h.destBlock, h.destPort]
  rfl

theorem normalizeConnection_incomplete (yaml : YamlPmt)
    (h : ∀ sourceBlock sourcePort destBlock destPort, ¬ Connects map sourceBlock sourcePort destBlock destPort) :
    normalizeConnection yaml (.map map) = .ok (.map map, false) := by
  unfold normalizeConnection
  dsimp only
  split
  · next hsourceBlock hsourcePort hdestBlock hdestPort =>
    exact absurd ⟨hsourceBlock, hsourcePort, hdestBlock, hdestPort⟩ (h _ _ _ _)
  · rfl

theorem normalizeConnection_texts (yaml : YamlPmt) (sourceBlock sourcePort destBlock destPort : Bytes) :
    normalizeConnection yaml (.tensor [.string sourceBlock, .string sourcePort, .string destBlock, .string destPort]) =
      normalizePort sourcePort >>= fun source => normalizePort destPort >>= fun dest =>
        .ok (.tensor [.string sourceBlock, source, .string destBlock, dest],
          !yaml.same source (.string sourcePort) || !yaml.same dest (.string destPort)) := by
  rw [normalizeConnection_sequence (by simp), normalizeEntry_text rfl]
  cases normalizePort sourcePort with
  | error what => rfl
  | ok source =>
    dsimp only [bind, Except.bind]
    have hentry : [Value.string sourceBlock, source, .string destBlock, .string destPort][3]? = some (.string destPort) := rfl
    rw [List.set_cons_succ, List.set_cons_zero, normalizeEntry_text hentry]
    cases normalizePort destPort <;> rfl

theorem normalizeConnection_again (hsame : ComparesText yaml)
    (h : normalizeConnection yaml connection = .ok (connection', changed)) :
    normalizeConnection yaml connection' = .ok (connection', false) := by
  cases connection with
  | tensor sequence =>
    obtain ⟨sequence', rfl, hnormalized⟩ := normalizeConnection_tensor hsame h
    exact hnormalized.again yaml hsame
  | map map =>
    by_cases hconnects : ∃ sourceBlock sourcePort destBlock destPort, Connects map sourceBlock sourcePort destBlock destPort
    · obtain ⟨sourceBlock, sourcePort, destBlock, destPort, hconnects⟩ := hconnects
      -- the sequence form of the same connection becomes the same
      rw [normalizeConnection_map hconnects] at h
      obtain ⟨source, hsource, h⟩ := bind_eq_ok h
      obtain ⟨dest, hdest, h⟩ := bind_eq_ok h
      cases h
      have htexts := normalizeConnection_texts yaml sourceBlock sourcePort destBlock destPort
      rw [hsource, hdest] at htexts
      obtain ⟨sequence', heq, hnormalized⟩ := normalizeConnection_tensor hsame htexts
      cases heq
      exact hnormalized.again yaml hsame
    · have hkept := normalizeConnection_incomplete yaml
        fun sourceBlock sourcePort destBlock destPort h => hconnects ⟨sourceBlock, sourcePort, destBlock, destPort, h⟩
      rw [hkept] at h
      cases h
      exact hkept
  | _ =>
    cases h
    rfl

/-- The map and the sequence form of a connection become one sequence, a connection is settled once
normalized, and a sequence counts as changed exactly if it was. -/
theorem connection_forms_agree (hsame : ComparesText yaml) :
    (∀ sourceBlock sourcePort destBlock destPort, InRange sourcePort → InRange destPort → ∃ source dest,
        (∀ map, Connects map sourceBlock sourcePort destBlock destPort →
          normalizeConnection yaml (.map map) =
            .ok (.tensor [.string sourceBlock, source, .string destBlock, dest], true)) ∧
        ∃ changed, normalizeConnection yaml
            (.tensor [.string sourceBlock, .string sourcePort, .string destBlock, .string destPort]) =
          .ok (.tensor [.string sourceBlock, source, .string destBlock, dest], changed)) ∧
      (∀ connection connection' changed, normalizeConnection yaml connection = .ok (connection', changed) →
        normalizeConnection yaml connection' = .ok (connection', false)) ∧
      ∀ sequence connection' changed, normalizeConnection yaml (.tensor sequence) = .ok (connection', changed) →
        (changed ↔ connection' ≠ .tensor sequence) := by
  refine ⟨?_, fun _ _ _ h => normalizeConnection_again hsame h, ?_⟩
  · intro sourceBlock sourcePort destBlock destPort hsourceRange hdestRange
    obtain ⟨source, hsource⟩ := normalizePort_inRange hsourceRange
    obtain ⟨dest, hdest⟩ := normalizePort_inRange hdestRange
    refine ⟨source, dest, fun map hmap => ?_,
      !yaml.same source (.string sourcePort) || !yaml.same dest (.string destPort), ?_⟩
    · rw [normalizeConnection_map hmap, hsource, hdest]
      rfl
    · rw [normalizeConnection_texts, hsource, hdest]
      rfl
  · intro sequence connection' changed h
    obtain ⟨sequence', rfl, hnormalized⟩ := normalizeConnection_tensor hsame h
    rw [hnormalized.changed_iff, ne_eq, ne_eq, Value.tensor.injEq]

def textYaml : YamlPmt where
  deserialize _ := none
  serialize _ := []
  same
    | .string s, .string s' => s = s'
    | _, _ => false

theorem textYaml_compares : ComparesText textYaml := by
  intro value token
  cases value <;> simp [textYaml]

def splitterConnection : PropertyMap :=
  [(ascii "source_block", .string (ascii "src")), (ascii "source_port_token", .string (ascii "out1")),
    (ascii "dest_block", .string (ascii "snk")), (ascii "dest_port_token", .string (ascii "in"))]

theorem connection_forms_agree_splitter : ∃ source dest changed,
    normalizeConnection textYaml (.map splitterConnection) =
      .ok (.tensor [.string (ascii "src"), source, .string (ascii "snk"), dest], true) ∧
    normalizeConnection textYaml (.tensor [.string (ascii "src"), .string (ascii "out1"), .string (ascii "snk"),
      .string (ascii "in")]) = .ok (.tensor [.string (ascii "src"), source, .string (ascii "snk"), dest], changed) := by
  obtain ⟨source, dest, hmap, changed, hsequence⟩ := (connection_forms_agree textYaml_compares).1
    (ascii "src") (ascii "out1") (ascii "snk") (ascii "in") (by decide) (by decide)
  exact ⟨source, dest, changed, hmap splitterConnection ⟨rfl, rfl, rfl, rfl⟩, hsequence⟩

end Gr4ControlPlane
