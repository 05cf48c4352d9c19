import Mathlib.Data.List.Basic
import ProviderRegistry.Source.Match

/-!
# What rules build

A rule builds a value out of those that its patterns matched, and these come from other rules. So a
property of what every rule builds (`Built`) holds of whatever is found, once each alternative
keeps it (`Builds`): the remembered results have it as well, and so has what a rule grows from
(`Scene.built_of_parse`). The rules for what is wrong do not take part, since they are not tried as
long as nobody is to blame.
-/

namespace ProviderRegistry.Source

/-- The value of a sequence in a group: that of a single pattern stands for the sequence. -/
def Value.ofSequence : List Value → Value
  | [value] => value
  | values => .many values

section Fitting

variable (Built : Rule → Value → Prop)

mutual

/-- A value **fits** a pattern when the pattern may have matched it, given what the rules build and
that nobody is to blame. -/
def Fits : Pattern → Value → Prop
  | .name, value | .number, value | .string, value | .newline, value | .indent, value
  | .dedent, value | .endOfText, value | .literal _, value | .soft _, value | .anySoft, value
  | .forced _, value => ∃ t, value = .token t
  | .rule r, value => Built r value
  | .wrong _, _ => False
  | .opt p, value => value = .nothing ∨ Fits p value
  | .star p, value | .plus p, value | .sep _ p, value =>
    ∃ values, value = .many values ∧ ∀ v ∈ values, Fits p v
  | .ahead _, value | .notAhead _, value | .commit, value => value = .nothing
  | .group alternatives, value => FitsAny alternatives value

/-- Values fit patterns one by one. -/
def FitsEach : List Pattern → List Value → Prop
  | [], values => values = []
  | p :: ps, values => ∃ first rest, values = first :: rest ∧ Fits p first ∧ FitsEach ps rest

/-- A value fits one of some sequences. -/
def FitsAny : List (List Pattern) → Value → Prop
  | [], _ => False
  | ps :: rest, value => (∃ values, value = .ofSequence values ∧ FitsEach ps values) ∨
    FitsAny rest value

end

/-- An alternative of a rule **builds** what the rule is to build, from any values that fit it. -/
def Builds (r : Rule) (alternative : Alternative) : Prop :=
  ∀ (reading : Reading) (value : Value), FitsEach Built alternative.1 reading.values →
    alternative.2 reading = .value value → Built r value

/-- A state of matching is **sound** when nobody is to blame and every value that is remembered for
a rule is one that the rule builds. -/
structure Matcher.Sound (m : Matcher) : Prop where
  blaming : m.blaming = false
  memo : ∀ (r : Rule) (start : ℕ) (value : Value) (position : ℕ),
    m.memo[(r, start)]? = some (some value, position) → Built r value

/-- A result is **sound** when its state is, and what is found has a property. -/
def MatchResult.Sound (P : Value → Prop) : MatchResult → Prop
  | .found value after => P value ∧ after.Sound Built
  | .failed after _ => after.Sound Built
  | .wrong .. => True

end Fitting

variable {Built : Rule → Value → Prop} {P Q : Value → Prop} {scene : Scene} {m : Matcher}
    {r : Rule}
  {start fuel : ℕ}

/-- A group of which one sequence is a single rule. -/
theorem fitsAny_rule_cons {alternatives : List (List Pattern)} {value : Value} :
    FitsAny Built ([.rule r] :: alternatives) value ↔
      Built r value ∨ FitsAny Built alternatives value := by
  simp [FitsAny, FitsEach, Fits, Value.ofSequence]

theorem not_fitsAny_nil {value : Value} : ¬ FitsAny Built [] value := by
  rw [FitsAny]
  exact not_false

/-- Each of the values fits the pattern at its place. -/
theorem FitsEach.nth {ps : List Pattern} {values : List Value} {p : Pattern} {i : ℕ}
    (h : FitsEach Built ps values) (hp : ps[i]? = some p) :
    Fits Built p (values.getD i .nothing) := by
  induction ps generalizing values i with
  | nil => cases hp
  | cons first ps ih =>
    obtain ⟨value, rest, rfl, hvalue, hrest⟩ := h
    cases i with
    | zero => exact Option.some.inj hp ▸ hvalue
    | succ i =>
      rw [List.getD_cons_succ]
      exact ih hrest hp

/-- What holds of every value that fits one of the patterns holds of all values that fit them in
turn. -/
theorem FitsEach.forall_mem {ps : List Pattern} {values : List Value}
    (h : FitsEach Built ps values)
    (hps : ∀ p ∈ ps, ∀ v, Fits Built p v → P v) : ∀ v ∈ values, P v := by
  induction ps generalizing values with
  | nil =>
    obtain rfl : values = [] := h
    exact List.forall_mem_nil _
  | cons p ps ih =>
    obtain ⟨first, rest, rfl, hfirst, hrest⟩ := h
    obtain ⟨hp, hps⟩ := List.forall_mem_cons.mp hps
    exact List.forall_mem_cons.mpr ⟨hp first hfirst, ih hrest hps⟩

/-! ### Alternatives that build what they should -/

section Builds

variable {ps : List Pattern} {p : Pattern} {build : Builder} {i : ℕ}

/-- What a rule builds without asking anything. -/
theorem builds_value {f : Reading → Value} (h : ∀ reading, Built r (f reading)) :
    Builds Built r (ps, fun reading => .value (f reading)) := by
  rintro reading _ - ⟨⟩
  exact h reading

/-- A rule that passes on the value of one of its patterns builds what fits that pattern. -/
theorem builds_same (hp : ps[i]? = some p) (h : ∀ v, Fits Built p v → Built r v) :
    Builds Built r (ps, Build.same i) := by
  rintro reading _ hfits ⟨⟩
  exact h _ (hfits.nth hp)

/-- An alternative does not match where one of its patterns matches nothing. -/
theorem builds_of_unfit (hp : ps[i]? = some p) (h : ∀ v, ¬ Fits Built p v) :
    Builds Built r (ps, build) :=
  fun _ _ hfits _ => absurd (hfits.nth hp) (h _)

/-- An alternative that only finds a fault builds nothing, so whatever it builds is right. -/
theorem builds_wrong {q : Rule} : Builds Built r (.wrong q :: ps, build) :=
  builds_of_unfit (i := 0) rfl fun _ => id

/-- An alternative that reports a fault builds nothing. -/
theorem builds_wrongAt : Builds Built r (ps, Build.wrongAt i) := by
  rintro _ _ - ⟨⟩

/-- A rule of an operator that groups to the left. -/
theorem builds_leftOperator {operand : Rule} {operators : List String}
    (hr : ∀ e, Built r (.expr e)) (hoperand : ∀ v, Built operand v → Built r v) :
    ∀ a ∈ Grammar.leftOperator r operand operators, Builds Built r a := by
  refine List.forall_mem_append.mpr ⟨?_, List.forall_mem_singleton.mpr (builds_same rfl hoperand)⟩
  refine List.forall_mem_map.mpr fun text _ => ?_
  exact builds_value fun _ => hr _

end Builds

/-! ### Results of matching -/

namespace Matcher.Sound

/-- Going back in the text leaves what was found sound. -/
theorem back (h : m.Sound Built) (position : ℕ) : (Scene.back m position).Sound Built :=
  ⟨h.blaming, h.memo⟩

/-- What is remembered is sound if the value was built. -/
theorem remember {value : Option Value} (h : m.Sound Built) (hvalue : ∀ v ∈ value, Built r v) :
    (Scene.remember r start value m).Sound Built where
  blaming := h.blaming
  memo other first v position hfound := by
    rw [Scene.remember, Std.HashMap.getElem?_insert] at hfound
    split at hfound
    · next heq =>
      obtain ⟨rfl, -⟩ := Prod.mk.injEq .. ▸ eq_of_beq heq
      obtain ⟨rfl, -⟩ := Prod.mk.injEq .. ▸ Option.some.inj hfound
      exact hvalue v rfl
    · exact h.memo other first v position hfound

end Matcher.Sound

/-- A sound result stays so when less is asked of its value. -/
theorem MatchResult.Sound.mono {result : MatchResult} (h : result.Sound Built P)
    (hmono : ∀ v, P v → Q v) : result.Sound Built Q := by
  cases result with
  | found value after => exact ⟨hmono value h.1, h.2⟩
  | failed after committed => exact h
  | wrong line final after => trivial

/-- Where nothing is found, it does not matter which property it would have. -/
theorem MatchResult.Sound.of_not_found {result : MatchResult} (h : result.Sound Built P)
    (hnone : ∀ (value : Value) (after : Matcher), result = .found value after → False) :
    result.Sound Built Q := by
  cases result with
  | found value after => exact (hnone value after rfl).elim
  | failed after committed => exact h
  | wrong line final after => trivial

namespace Scene

/-- A token that is taken is a token of the text. -/
theorem sound_take (hm : m.Sound Built) (test : Token → Bool) :
    (scene.take m test).Sound Built fun v => ∃ t, v = .token t := by
  rw [take]
  cases scene.token? m.position with
  | some t =>
    dsimp only
    split
    · exact ⟨⟨t, rfl⟩, hm.blaming, hm.memo⟩
    · exact ⟨hm.blaming, hm.memo⟩
  | none =>
    dsimp only
    split
    · exact hm
    · trivial
    · trivial

theorem sound_takeNumber (hm : m.Sound Built) :
    (scene.takeNumber m).Sound Built fun v => ∃ t, v = .token t := by
  have htake := @sound_take Built scene m hm fun t => t.kind = .number
  rw [takeNumber]
  split
  · next t after heq =>
    rw [heq] at htake
    split
    · trivial
    · exact htake
  · exact htake

/-- A token that must stand here is taken, or the match ends in a fault. -/
theorem sound_takeForced (hm : m.Sound Built) (text : String) :
    (scene.takeForced m text).Sound Built fun v => ∃ t, v = .token t := by
  have htake := @sound_take Built scene m hm fun t => t.kind = .operator && t.text = text
  rw [takeForced]
  split
  · trivial
  · exact htake

/-! ### One step of matching -/

/-- What matching with some fuel finds is **sound**, for every kind of thing to match. -/
structure SoundWith (scene : Scene) (Built : Rule → Value → Prop) (fuel : ℕ) : Prop where
  pattern : ∀ {m : Matcher} (p : Pattern), m.Sound Built →
    (scene.pattern fuel p m).Sound Built (Fits Built p)
  many : ∀ {m : Matcher} (p : Pattern) (values : List Value), m.Sound Built →
    (∀ v ∈ values, Fits Built p v) →
      (scene.many fuel p values m).Sound Built (Fits Built (.star p))
  manyAfter : ∀ {m : Matcher} (separator p : Pattern) (values : List Value), m.Sound Built →
    (∀ v ∈ values, Fits Built p v) →
      (scene.manyAfter fuel separator p values m).Sound Built (Fits Built (.sep separator p))
  sequence : ∀ {m : Matcher} (ps : List Pattern) (values : List Value) (committed : Bool),
    m.Sound Built → (scene.sequence fuel ps values committed m).Sound Built fun v =>
      ∃ rest, v = .many (values.reverse ++ rest) ∧ FitsEach Built ps rest
  group : ∀ {m : Matcher} (alternatives : List (List Pattern)), m.Sound Built →
    (scene.group fuel alternatives m).Sound Built (FitsAny Built alternatives)
  alternatives : ∀ {m : Matcher} {r : Rule} (alternatives : List Alternative),
    (∀ a ∈ alternatives, Builds Built r a) → m.Sound Built →
      (scene.alternatives fuel alternatives m).Sound Built (Built r)
  ruleAnew : ∀ {m : Matcher} (r : Rule), m.Sound Built →
    (scene.ruleAnew fuel r m).Sound Built (Built r)
  grow : ∀ {m : Matcher} (r : Rule) (start : ℕ) (best : Option Value) (reached : ℕ),
    m.Sound Built → (∀ v ∈ best, Built r v) →
      (scene.grow fuel r start best reached m).Sound Built (Built r)
  rule : ∀ {m : Matcher} (r : Rule), m.Sound Built → (scene.rule fuel r m).Sound Built (Built r)

/-- Without any fuel nothing is found. -/
theorem soundWith_zero : SoundWith scene Built 0 := by
  constructor <;> intros <;> assumption

section Step

variable (h : SoundWith scene Built fuel)

include h

/-- One step into a pattern: its kind decides what its value must fit. -/
theorem SoundWith.pattern_succ (p : Pattern) (hm : m.Sound Built) :
    (scene.pattern (fuel + 1) p m).Sound Built (Fits Built p) := by
  cases p with
  | name | string | newline | indent | dedent | endOfText | literal text | soft text | anySoft =>
    simpa only [Scene.pattern, Fits] using sound_take hm _
  | number => simpa only [Scene.pattern, Fits] using sound_takeNumber hm
  | forced text => simpa only [Scene.pattern, Fits] using sound_takeForced hm text
  | rule r => simpa only [Scene.pattern, Fits] using h.rule r hm
  | wrong r =>
    simp only [Scene.pattern, hm.blaming]
    exact hm
  | opt p =>
    have hp := h.pattern p hm
    simp only [Scene.pattern]
    split
    · next after _ heq =>
      rw [heq] at hp
      exact ⟨.inl rfl, hp.back _⟩
    · exact hp.mono fun _ => .inr
  | star p =>
    simpa only [Scene.pattern] using h.many p [] hm (by simp)
  | plus p =>
    have hmany := h.many p [] hm (by simp)
    simp only [Scene.pattern]
    split
    · next after heq =>
      rw [heq] at hmany
      exact hmany.2
    · exact hmany
  | sep separator p =>
    have hp := h.pattern p hm
    simp only [Scene.pattern]
    split
    · next first after heq =>
      rw [heq] at hp
      exact h.manyAfter separator p [first] hp.2 (by simpa using hp.1)
    · next hnone => exact hp.of_not_found hnone
  | ahead p =>
    have hp := h.pattern p hm
    simp only [Scene.pattern]
    split
    · next value after heq =>
      rw [heq] at hp
      exact ⟨rfl, hp.2.back _⟩
    · next hnone => exact hp.of_not_found hnone
  | notAhead p =>
    have hp := h.pattern p hm
    simp only [Scene.pattern]
    split
    · next value after heq =>
      rw [heq] at hp
      exact hp.2
    · next after _ heq =>
      rw [heq] at hp
      exact ⟨rfl, hp.back _⟩
    · next hnone _ => exact hp.of_not_found hnone
  | commit => exact ⟨rfl, hm⟩
  | group alternatives => simpa only [Scene.pattern, Fits] using h.group alternatives hm

/-- One more repetition is sound if those before it are. -/
theorem SoundWith.many_succ (p : Pattern) {values : List Value} (hm : m.Sound Built)
    (hvalues : ∀ v ∈ values, Fits Built p v) :
    (scene.many (fuel + 1) p values m).Sound Built (Fits Built (.star p)) := by
  have hp := h.pattern p hm
  simp only [Scene.many]
  split
  · next value after heq =>
    rw [heq] at hp
    exact h.many p (value :: values) hp.2 (List.forall_mem_cons.mpr ⟨hp.1, hvalues⟩)
  · next after _ heq =>
    rw [heq] at hp
    exact ⟨⟨_, rfl, by simpa using hvalues⟩, hp.back _⟩
  · next hnone _ => exact hp.of_not_found hnone

/-- One more repetition behind a separator is sound if those before it are. -/
theorem SoundWith.manyAfter_succ (separator p : Pattern) {values : List Value} (hm : m.Sound Built)
    (hvalues : ∀ v ∈ values, Fits Built p v) :
    (scene.manyAfter (fuel + 1) separator p values m).Sound Built
      (Fits Built (.sep separator p)) := by
  have hreverse : Fits Built (.sep separator p) (.many values.reverse) :=
    ⟨_, rfl, by simpa using hvalues⟩
  have hseparator := h.pattern separator hm
  simp only [Scene.manyAfter]
  split
  · next _ between heq =>
    rw [heq] at hseparator
    have hp := h.pattern p hseparator.2
    split
    · next value after heq =>
      rw [heq] at hp
      exact h.manyAfter separator p (value :: values) hp.2
        (List.forall_mem_cons.mpr ⟨hp.1, hvalues⟩)
    · next after _ heq =>
      rw [heq] at hp
      exact ⟨hreverse, hp.back _⟩
    · next hnone _ => exact hp.of_not_found hnone
  · next after _ heq =>
    rw [heq] at hseparator
    exact ⟨hreverse, hseparator.back _⟩
  · next hnone _ => exact hseparator.of_not_found hnone

/-- A sequence is sound pattern by pattern; the values that were found before stand in front. -/
theorem SoundWith.sequence_succ (ps : List Pattern) (values : List Value) (committed : Bool)
    (hm : m.Sound Built) :
    (scene.sequence (fuel + 1) ps values committed m).Sound Built fun v =>
      ∃ rest, v = .many (values.reverse ++ rest) ∧ FitsEach Built ps rest := by
  cases ps with
  | nil => exact ⟨⟨[], by rw [List.append_nil], rfl⟩, hm⟩
  | cons p ps =>
    have hp := h.pattern p hm
    simp only [Scene.sequence]
    split
    · next value after heq =>
      rw [heq] at hp
      refine (h.sequence ps (value :: values) _ hp.2).mono ?_
      rintro _ ⟨rest, rfl, hrest⟩
      exact ⟨value :: rest, by simp, value, rest, rfl, hp.1, hrest⟩
    · next after _ heq =>
      rw [heq] at hp
      exact hp
    · next hnone _ => exact hp.of_not_found hnone

/-- Of several sequences the first that matches gives a value that fits one of them. -/
theorem SoundWith.group_succ (alternatives : List (List Pattern)) (hm : m.Sound Built) :
    (scene.group (fuel + 1) alternatives m).Sound Built (FitsAny Built alternatives) := by
  cases alternatives with
  | nil => exact hm
  | cons ps rest =>
    have hsequence := h.sequence ps [] false hm
    simp only [Scene.group]
    split
    · next value after heq =>
      rw [heq] at hsequence
      obtain ⟨⟨values, hvalues, hfits⟩, hafter⟩ := hsequence
      obtain rfl : [value] = values := by simpa using hvalues
      exact ⟨.inl ⟨[value], rfl, hfits⟩, hafter⟩
    · next after committed heq =>
      rw [heq] at hsequence
      split
      · exact hsequence
      · exact (h.group rest (hsequence.back _)).mono fun _ => .inr
    · next hmany hfailed =>
      cases hresult : scene.sequence fuel ps [] false m with
      | found value after =>
        rw [hresult] at hsequence
        obtain ⟨⟨values, rfl, hfits⟩, hafter⟩ := hsequence
        refine ⟨.inl ⟨values, ?_, hfits⟩, hafter⟩
        cases values with
        | nil => rfl
        | cons first more =>
          cases more with
          | nil => exact absurd hresult (hmany first after)
          | cons second more => rfl
      | failed after committed => exact absurd hresult (hfailed after committed)
      | wrong line final after => trivial

/-- The first alternative of a rule that matches builds what the rule builds. -/
theorem SoundWith.alternatives_succ {alternatives : List Alternative}
    (hbuilds : ∀ a ∈ alternatives, Builds Built r a) (hm : m.Sound Built) :
    (scene.alternatives (fuel + 1) alternatives m).Sound Built (Built r) := by
  cases alternatives with
  | nil => exact hm
  | cons alternative rest =>
    obtain ⟨ps, build⟩ := alternative
    obtain ⟨hfirst, hrest⟩ := List.forall_mem_cons.mp hbuilds
    have hsequence := h.sequence ps [] false hm
    simp only [Scene.alternatives]
    split
    · next values after heq =>
      rw [heq] at hsequence
      obtain ⟨⟨values, rfl, hfits⟩, hafter⟩ := hsequence
      split
      · next value hvalue => exact ⟨hfirst _ value hfits hvalue, hafter⟩
      · exact hafter
      · trivial
    · next after committed heq =>
      rw [heq] at hsequence
      split
      · exact hsequence
      · exact h.alternatives rest hrest (hsequence.back _)
    · next hnone _ => exact hsequence.of_not_found hnone

/-- A rule matched anew builds what one of its alternatives builds. -/
theorem SoundWith.ruleAnew_succ (r : Rule)
    (hbuilds : ∀ a ∈ Grammar.alternatives r, Builds Built r a) (hm : m.Sound Built) :
    (scene.ruleAnew (fuel + 1) r m).Sound Built (Built r) := by
  simp only [Scene.ruleAnew]
  split
  · have hcalm :=
      h.alternatives _ hbuilds (⟨rfl, hm.memo⟩ : { m with blaming := false }.Sound Built)
    split
    · next value after heq =>
      rw [heq] at hcalm
      exact ⟨hcalm.1, hm.blaming, hcalm.2.memo⟩
    · next after _ heq =>
      rw [heq] at hcalm
      exact ⟨hm.blaming, hcalm.memo⟩
    · next hnone _ => exact hcalm.of_not_found hnone
  · exact h.alternatives _ hbuilds hm

/-- A rule that starts with itself is matched again and again over its own last value. Each round
builds on a value that was built already. -/
theorem SoundWith.grow_succ (r : Rule) (start : ℕ) {best : Option Value} (reached : ℕ)
    (hm : m.Sound Built) (hbest : ∀ v ∈ best, Built r v) :
    (scene.grow (fuel + 1) r start best reached m).Sound Built (Built r) := by
  have hremembered : (remember r start best (Scene.back m reached)).Sound Built :=
    (hm.back reached).remember hbest
  have hagain := h.ruleAnew r (hremembered.back start)
  simp only [Scene.grow]
  split
  · next value after heq =>
    rw [heq] at hagain
    split
    · cases best with
      | some value => exact ⟨hbest value rfl, hagain.2.back reached⟩
      | none => exact hagain.2.back reached
    · exact h.grow r start (some value) after.position hagain.2 (by simpa using hagain.1)
  · next after _ heq =>
    rw [heq] at hagain
    cases best with
    | some value => exact ⟨hbest value rfl, hagain.back reached⟩
    | none => exact hagain.back reached
  · next hnone _ => exact hagain.of_not_found hnone

/-- A rule gives what is remembered of it at this place, or is matched anew, and both were
built. -/
theorem SoundWith.rule_succ (r : Rule) (hm : m.Sound Built) :
    (scene.rule (fuel + 1) r m).Sound Built (Built r) := by
  have hanew := h.ruleAnew r hm
  simp only [Scene.rule]
  split
  · split
    · next value position hmemo => exact ⟨hm.memo r m.position value position hmemo, hm.back _⟩
    · exact hm.back _
    · split
      · exact h.grow r m.position none m.position hm (by simp)
      · split
        · next value after heq =>
          rw [heq] at hanew
          exact ⟨hanew.1, hanew.2.remember (by simpa using hanew.1)⟩
        · next after _ heq =>
          rw [heq] at hanew
          exact hanew.remember (by simp)
        · next hnone _ => exact hanew.of_not_found hnone
  · exact hanew

end Step

/-! ### Whole runs -/

/-- **What is found has the property**, with any fuel. -/
theorem soundWith (hbuilds : ∀ r, ∀ a ∈ Grammar.alternatives r, Builds Built r a) (fuel : ℕ) :
    SoundWith scene Built fuel := by
  induction fuel with
  | zero => exact soundWith_zero
  | succ fuel ih =>
    exact {
      pattern := fun p hm => ih.pattern_succ p hm
      many := fun p _ hm hvalues => ih.many_succ p hm hvalues
      manyAfter := fun separator p _ hm hvalues => ih.manyAfter_succ separator p hm hvalues
      sequence := fun ps values committed hm => ih.sequence_succ ps values committed hm
      group := fun alternatives hm => ih.group_succ alternatives hm
      alternatives := fun _ halternatives hm => ih.alternatives_succ halternatives hm
      ruleAnew := fun r hm => ih.ruleAnew_succ r (hbuilds r) hm
      grow := fun r start _ reached hm hbest => ih.grow_succ r start reached hm hbest
      rule := fun r hm => ih.rule_succ r hm }

/-- **What a rule builds from a text** has every property that its alternatives, and those of the
rules in them, keep. -/
theorem built_of_parse (hbuilds : ∀ r, ∀ a ∈ Grammar.alternatives r, Builds Built r a)
    {value : Value} (h : scene.parse r = .ok value) : Built r value := by
  have hstart : Matcher.Sound Built ⟨0, 0, false, ∅⟩ := ⟨rfl, by simp⟩
  have hpass := (@soundWith Built scene hbuilds scene.depthFor).rule r hstart
  rw [parse] at h
  dsimp only at h
  split at h
  · next found after heq =>
    rw [pass] at heq
    rw [heq] at hpass
    exact Except.ok.inj h ▸ hpass.1
  · cases h
  · split at h
    · cases h
    · split at h
      · cases h
      · split at h <;> cases h
    · split at h
      · cases h
      · split at h <;> cases h

end Scene

end ProviderRegistry.Source
