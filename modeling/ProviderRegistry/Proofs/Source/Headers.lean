import ProviderRegistry.Proofs.Source.Marked
import ProviderRegistry.Proofs.Source.Matching

/-!
# Headers of functions

The grammar wants the parameters of a function **in order**: one without a default does not come
after one with a default, unless it is given by name. So every function of a text that can be read
has its parameters in order, wherever it stands (`Stmt.Orderly.of_parse`). What the single rules
add to this is said by `InOrder`, and every alternative keeps it.
-/

namespace ProviderRegistry.Source

/-! ### Parameters in order -/

/-- Defaults **come last** when no place without one comes after a place with one. -/
def DefaultsLast (places : List Bool) : Prop :=
  places.Pairwise fun earlier later => earlier = true → later = true

/-- Without defaults there is none that could stand too early. -/
theorem defaultsLast_of_required {places : List Bool} (h : ∀ default ∈ places, default = false) :
    DefaultsLast places :=
  List.pairwise_of_forall_mem_list fun earlier hearlier _ _ htrue =>
    absurd htrue (by simp [h earlier hearlier])

/-- Places with defaults may come after any others. -/
theorem DefaultsLast.append {places more : List Bool} (h : DefaultsLast places)
    (hmore : ∀ default ∈ more, default = true) : DefaultsLast (places ++ more) := by
  have hlast : DefaultsLast more :=
    List.pairwise_of_forall_mem_list fun _ _ later hlater _ => hmore later hlater
  exact List.pairwise_append.mpr ⟨h, hlast, fun _ _ later hlater _ => hmore later hlater⟩

namespace Parameters

variable {p q : Parameters}

/-- The parameters that take arguments by their places. -/
def places (p : Parameters) : List Bool := p.positionalOnly ++ p.positional

/-- Parameters are **ordered** when none without a default comes after one with a default, unless
it is given by name. -/
def Ordered (p : Parameters) : Prop := DefaultsLast p.places

instance (p : Parameters) : Decidable p.Ordered :=
  inferInstanceAs (Decidable (p.places.Pairwise _))

/-- The places of a part of a header come after those of the part before it, unless it has some
before a slash. -/
theorem places_append (hq : q.positionalOnly = []) : (p ++ q).places = p.places ++ q.places := by
  change p.positionalOnly ++ q.positionalOnly ++ (p.positional ++ q.positional) = _
  rw [places, places, hq, List.append_nil, List.nil_append, List.append_assoc]

end Parameters

/-- A statement is **orderly** when the parameters of all functions in it are ordered. -/
inductive Stmt.Orderly : Stmt → Prop where
  | classDef {line : ℕ} {name : String} {bases : List Expr}
      {keywords : List (Option String × Expr)} {decorators : List Expr} {body : List Stmt}
      (hbody : ∀ st ∈ body, st.Orderly) :
      Orderly (.classDef line name bases keywords decorators body)
  | functionDef {line : ℕ} {name : String} {isAsync : Bool} {parameters : Parameters}
      {decorators : List Expr} {body : List Stmt} (hparameters : parameters.Ordered)
      (hbody : ∀ st ∈ body, st.Orderly) :
      Orderly (.functionDef line name isAsync parameters decorators body)
  | importModules {names : List ImportedName} : Orderly (.importModules names)
  | importFrom {level : ℕ} {module : Option String} {names : List ImportedName} :
      Orderly (.importFrom level module names)
  | other : Orderly .other

/-- What stands in an orderly statement is orderly. -/
theorem Stmt.Orderly.of_standsAt {body around : List Stmt} {place : List ℕ} {st : Stmt}
    (hbody : ∀ st ∈ body, st.Orderly) (h : StandsAt body place around st) : st.Orderly := by
  induction h with
  | direct hst => exact hbody _ (List.mem_of_getElem? hst)
  | inside houter _ ih =>
    refine ih ?_
    cases hbody _ (List.mem_of_getElem? houter) with
    | classDef hinner | functionDef _ hinner => exact hinner
    | importModules | importFrom | other => exact fun st hst => absurd hst List.not_mem_nil

/-- Decorators leave the parameters of what they decorate alone. -/
theorem Stmt.Orderly.decorate {st : Stmt} (h : st.Orderly) (decorators : List Expr) :
    (Build.decorate decorators st).Orderly := by
  cases h with
  | classDef hbody => exact .classDef hbody
  | functionDef hparameters hbody => exact .functionDef hparameters hbody
  | importModules => exact .importModules
  | importFrom => exact .importFrom
  | other => exact .other

/-! ### What the rules build -/

/-- A value is **orderly** when all statements of it are. -/
def Value.Orderly (v : Value) : Prop := ∀ st ∈ v.stmts, st.Orderly

open Rule in
/-- What a rule builds is **in order**: statements are orderly and headers are ordered, with the
required parameters before the others, and the expression of a default is something. -/
def InOrder : Rule → Value → Prop
  | file, v | statements, v | statement, v | simpleStmts, v | simpleStmt, v | compoundStmt, v
  | importStmt, v | importName, v | importFrom, v | block, v | classDef, v | classDefRaw, v
  | functionDef, v | functionDefRaw, v => v.Orderly
  | params, v | parameters, v | slashWithDefault, v => v.positional.Ordered
  | slashNoDefault, v => ∀ default ∈ v.positional.places, default = false
  | starEtc, v | kwds, v => v.positional.places = []
  | paramNoDefault, v | param, v => v.hasDefault = false
  | paramWithDefault, v => v.hasDefault = true
  | defaultValue, v | expression, v | yieldExpr, v | assignmentExpression, v | namedExpression, v
  | disjunction, v | conjunction, v | inversion, v | comparison, v | bitwiseOr, v | bitwiseXor, v
  | bitwiseAnd, v | shiftExpr, v | sum, v | term, v | factor, v | power, v | awaitPrimary, v
  | primary, v | atom, v | group, v | lambdef, v | strings, v | list, v | tuple, v | setDisplay, v
  | dict, v | listcomp, v | setcomp, v | genexp, v | dictcomp, v => v.isNothing = false
  -- they match only what is wrong
  | wrongKvpair, _ | wrongDoubleStarredKvpairs, _ => False
  | _, _ => True

/-! ### Alternatives that keep it -/

section Builders

variable {r : Rule} {ps : List Pattern} {p q : Pattern} {name arguments header body : ℕ}

theorem Value.mem_allStmts_iff {values : List Value} {st : Stmt} :
    st ∈ Value.allStmts values ↔ ∃ v ∈ values, st ∈ v.stmts := by
  induction values with
  | nil => simp [Value.allStmts]
  | cons v values ih => simp [Value.allStmts, ih]

theorem Value.orderly_singleton {st : Stmt} (h : st.Orderly) :
    (Value.statements [st]).Orderly := by
  intro only honly
  rwa [List.mem_singleton.mp honly]

theorem orderly_of_token {v : Value} (h : ∃ t, v = .token t) : v.Orderly := by
  obtain ⟨t, rfl⟩ := h
  exact List.forall_mem_nil _

/-- What may be left out is orderly, for a value that is left out holds no statement. -/
theorem orderly_of_opt {v : Value} (hp : ∀ w, Fits InOrder p w → w.Orderly)
    (h : Fits InOrder (.opt p) v) : v.Orderly := by
  rcases h with rfl | h
  · exact List.forall_mem_nil _
  · exact hp v h

/-- Repetitions of what is orderly are orderly. -/
theorem orderly_of_repeated {v : Value} (hp : ∀ w, Fits InOrder p w → w.Orderly)
    (h : Fits InOrder (.star p) v) : v.Orderly := by
  obtain ⟨values, rfl, hvalues⟩ := h
  intro st hst
  obtain ⟨w, hw, hst⟩ := Value.mem_allStmts_iff.mp hst
  exact hp w (hvalues w hw) st hst

/-- A rule that collects statements builds orderly ones if its parts are. -/
theorem builds_statements (hr : ∀ {v}, v.Orderly → InOrder r v)
    (h : ∀ p ∈ ps, ∀ v, Fits InOrder p v → v.Orderly) :
    Builds InOrder r (ps, Build.statements) := by
  rintro reading _ hfits ⟨⟩
  refine hr fun st hst => ?_
  obtain ⟨v, hv, hst⟩ := Value.mem_allStmts_iff.mp hst
  exact hfits.forall_mem h v hv st hst

/-- A class is orderly if its body is. -/
theorem builds_classDef (hr : ∀ {v}, v.Orderly → InOrder r v) (hp : ps[body]? = some p)
    (h : ∀ v, Fits InOrder p v → v.Orderly) :
    Builds InOrder r (ps, Build.classDef name arguments body) := by
  rintro reading _ hfits ⟨⟩
  exact hr (Value.orderly_singleton (.classDef (h _ (hfits.nth hp))))

/-- A function is orderly when its header is ordered and its body is orderly. -/
theorem builds_functionDef {isAsync : Bool} (hr : ∀ {v}, v.Orderly → InOrder r v)
    (hp : ps[header]? = some p) (hheader : ∀ v, Fits InOrder p v → v.positional.Ordered)
    (hq : ps[body]? = some q) (hbody : ∀ v, Fits InOrder q v → v.Orderly) :
    Builds InOrder r (ps, Build.functionDef isAsync name header body) := by
  rintro reading _ hfits ⟨⟩
  exact hr (Value.orderly_singleton
    (.functionDef (hheader _ (hfits.nth hp)) (hbody _ (hfits.nth hq))))

/-- What a decorator stands before is orderly if it was so without. -/
theorem builds_decorated (hr : ∀ {v}, v.Orderly → InOrder r v) (hp : ps[1]? = some p)
    (h : ∀ v, Fits InOrder p v → v.Orderly) : Builds InOrder r (ps, Build.decorated) := by
  rintro reading _ hfits ⟨⟩
  refine hr fun st hst => ?_
  obtain ⟨bare, hbare, rfl⟩ := List.mem_map.mp hst
  exact (h _ (hfits.nth hp) bare hbare).decorate _

/-- Repeated parameters stand in places of their own. -/
theorem positional_of_repeated {v : Value} (h : Fits InOrder (.star p) v) :
    v.positional = { positional := v.toList.map Value.hasDefault } := by
  obtain ⟨values, rfl, -⟩ := h
  rfl

/-- Parameters that the grammar reads without a default have none. -/
theorem required_of_repeated {v : Value} (h : Fits InOrder (.star (.rule .paramNoDefault)) v) :
    ∀ default ∈ v.toList.map Value.hasDefault, default = false := by
  obtain ⟨values, rfl, hvalues⟩ := h
  exact List.forall_mem_map.mpr hvalues

/-- Parameters that the grammar reads with a default have one. -/
theorem defaulted_of_repeated {v : Value} (h : Fits InOrder (.star (.rule .paramWithDefault)) v) :
    ∀ default ∈ v.toList.map Value.hasDefault, default = true := by
  obtain ⟨values, rfl, hvalues⟩ := h
  exact List.forall_mem_map.mpr hvalues

/-- A part of a header is **late** when it may come after parameters with defaults. -/
def Late (v : Value) : Prop :=
  v.positional.positionalOnly = [] ∧ ∀ default ∈ v.positional.places, default = true

/-- Parameters with a default may come late. -/
theorem late_of_repeated {v : Value} (h : Fits InOrder (.star (.rule .paramWithDefault)) v) :
    Late v := by
  rw [Late, positional_of_repeated h]
  exact ⟨rfl, defaulted_of_repeated h⟩

/-- What stands after a star may come late: it adds nothing to the positions. -/
theorem late_of_starEtc {v : Value} (h : Fits InOrder (.opt (.rule .starEtc)) v) : Late v := by
  rcases h with rfl | h
  · exact ⟨rfl, List.forall_mem_nil _⟩
  · have hplaces : v.positional.places = [] := h
    exact ⟨(List.append_eq_nil_iff.mp hplaces).1, by simp [hplaces]⟩

/-- What may come late is in order by itself. -/
theorem Late.ordered {v : Value} (h : Late v) : v.positional.Ordered := by
  rw [Parameters.Ordered, ← List.nil_append v.positional.places]
  exact DefaultsLast.append .nil h.2

/-- Parameters stay in order when parts follow that are late. -/
theorem ordered_foldl {values : List Value} (hvalues : ∀ v ∈ values, Late v) {before : Parameters}
    (hbefore : before.Ordered) :
    ((values.map Value.positional).foldl (· ++ ·) before).Ordered := by
  induction values generalizing before with
  | nil => exact hbefore
  | cons v values ih =>
    obtain ⟨⟨hnone, hdefaults⟩, hrest⟩ := List.forall_mem_cons.mp hvalues
    refine ih hrest ?_
    rw [Parameters.Ordered, Parameters.places_append hnone]
    exact DefaultsLast.append hbefore hdefaults

/-- A header of parts that are late, after one that is in order. -/
theorem builds_parameters (hfirst : ∀ v, Fits InOrder p v → v.positional.Ordered)
    (hrest : ∀ q ∈ ps, ∀ v, Fits InOrder q v → Late v) :
    Builds InOrder .parameters (p :: ps, Build.parameters) := by
  rintro reading _ ⟨first, rest, hvalues, hfits, hrests⟩ ⟨⟩
  change ((reading.values.map Value.positional).foldl (· ++ ·) ({} : Parameters)).Ordered
  rw [hvalues]
  exact ordered_foldl (hrests.forall_mem hrest) (hfirst first hfits)

/-- A header with required parameters before and after a slash. -/
theorem builds_parameters_of_slash (hrest : ∀ q ∈ ps, ∀ v, Fits InOrder q v → Late v) :
    Builds InOrder .parameters
      (.rule .slashNoDefault :: .star (.rule .paramNoDefault) :: ps, Build.parameters) := by
  rintro reading _ ⟨first, _, hvalues, hfirst, second, rest, rfl, hsecond, hrests⟩ ⟨⟩
  have hrequired :
      ∀ default ∈ (first.positional ++ second.positional).places, default = false := by
    rw [positional_of_repeated hsecond, Parameters.places_append rfl]
    exact List.forall_mem_append.mpr ⟨hfirst, required_of_repeated hsecond⟩
  change ((reading.values.map Value.positional).foldl (· ++ ·) ({} : Parameters)).Ordered
  rw [hvalues]
  exact ordered_foldl (hrests.forall_mem hrest) (defaultsLast_of_required hrequired)

/-- Before a slash, parameters that all lack a default are in order. -/
theorem builds_slashNoDefault (hp : ps[0]? = some (.plus (.rule .paramNoDefault))) :
    Builds InOrder .slashNoDefault (ps, Build.positionalOnly [0]) := by
  rintro reading _ hfits ⟨⟩
  have hfirst : Fits InOrder (.plus (.rule .paramNoDefault)) (reading.nth 0) := hfits.nth hp
  change ∀ default ∈ ((reading.nth 0).toList.map Value.hasDefault ++ []) ++ [], default = false
  rw [List.append_nil, List.append_nil]
  exact required_of_repeated hfirst

/-- Before a slash, the parameters with a default follow those without. -/
theorem builds_slashWithDefault (hp : ps[0]? = some (.star (.rule .paramNoDefault)))
    (hq : ps[1]? = some (.plus (.rule .paramWithDefault))) :
    Builds InOrder .slashWithDefault (ps, Build.positionalOnly [0, 1]) := by
  rintro reading _ hfits ⟨⟩
  have hfirst : Fits InOrder (.star (.rule .paramNoDefault)) (reading.nth 0) := hfits.nth hp
  have hsecond : Fits InOrder (.plus (.rule .paramWithDefault)) (reading.nth 1) := hfits.nth hq
  have hlast := (defaultsLast_of_required (required_of_repeated hfirst)).append
    (defaulted_of_repeated hsecond)
  change DefaultsLast (((reading.nth 0).toList.map Value.hasDefault ++
    ((reading.nth 1).toList.map Value.hasDefault ++ [])) ++ [])
  rwa [List.append_nil, List.append_nil]

/-- After a star there are no positions left that could be out of order. -/
theorem builds_keywordOnly {variadic : Bool} {named rest : ℕ}
    (hp : ps[rest]? = some (.opt (.rule .kwds))) :
    Builds InOrder .starEtc (ps, Build.keywordOnly variadic named rest) := by
  rintro reading _ hfits ⟨⟩
  have hkwds : (reading.nth rest).positional.places = [] := by
    have hrest : Fits InOrder (.opt (.rule .kwds)) (reading.nth rest) := hfits.nth hp
    rcases hrest with hnothing | hplaces
    · rw [hnothing]
      rfl
    · exact hplaces
  exact hkwds

/-- A parameter that is read with the value of its default has one. -/
theorem builds_parameter (hp : ps[1]? = some (.rule .defaultValue)) :
    Builds InOrder .paramWithDefault (ps, Build.parameter) := by
  rintro reading _ hfits ⟨⟩
  have hsome : (reading.nth 1).isNothing = false := hfits.nth hp
  change (!(reading.nth 1).isNothing) = true
  rw [hsome, Bool.not_false]

/-- A string holds no statement. -/
theorem builds_strings (hr : ∀ {e}, InOrder r (.expr e)) :
    Builds InOrder r (ps, Build.strings) := by
  rintro reading v - hbuild
  simp only [Build.strings] at hbuild
  split at hbuild <;> cases hbuild
  exact hr

end Builders

/-! ### The rules of the grammar

Each part of the grammar is gone through rule by rule. Of most rules nothing is asked; what is left
are the alternatives of the others, one by one, and most of them build something known or pass on
what one of their patterns matched. -/

/-- Statements keep in order what stands in them. -/
theorem builds_simpleStatements (r : Rule) :
    ∀ a ∈ Grammar.simpleStatements r, Builds InOrder r a := by
  unfold Grammar.simpleStatements
  split
  -- the rules that are in another part of the grammar, and those of which nothing is asked
  all_goals try exact List.forall_mem_nil _
  all_goals try exact fun _ _ _ _ _ _ => trivial
  -- one goal for each alternative of the others
  all_goals repeat' refine List.forall_mem_cons.mpr ⟨?_, ?_⟩
  all_goals try exact List.forall_mem_nil _
  all_goals try exact builds_value fun _ => Value.orderly_singleton (by constructor)
  all_goals try exact builds_same rfl fun _ h => h
  -- a text, several statements, and several of them in a line
  · exact builds_same rfl fun _ => orderly_of_opt fun _ h => h
  · exact builds_statements id
      (List.forall_mem_singleton.mpr fun _ => orderly_of_repeated fun _ h => h)
  · refine builds_statements id (List.forall_mem_cons.mpr
      ⟨fun _ => orderly_of_repeated fun _ h => h, List.forall_mem_cons.mpr
        ⟨fun _ => orderly_of_opt fun _ => orderly_of_token, List.forall_mem_singleton.mpr ?_⟩⟩)
    exact fun _ => orderly_of_token

/-- Compound statements are orderly: what their bodies hold is, and a header is read by the rules
for parameter lists. -/
theorem builds_compoundStatements (r : Rule) :
    ∀ a ∈ Grammar.compoundStatements r, Builds InOrder r a := by
  unfold Grammar.compoundStatements
  split
  all_goals try exact List.forall_mem_nil _
  all_goals try exact fun _ _ _ _ _ _ => trivial
  all_goals repeat' refine List.forall_mem_cons.mpr ⟨?_, ?_⟩
  all_goals try exact List.forall_mem_nil _
  all_goals try exact builds_wrong
  all_goals try exact builds_same rfl fun _ h => h
  all_goals try exact builds_decorated id rfl fun _ h => h
  all_goals try exact builds_classDef id rfl fun _ h => h
  all_goals
    refine builds_functionDef id rfl ?_ rfl fun _ h => h
    rintro v (rfl | hheader)
    · exact List.Pairwise.nil
    · exact hheader

/-- Every rule for a parameter list puts the defaults last. Each alternative is one of the forms
above. -/
theorem builds_parameterLists (r : Rule) :
    ∀ a ∈ Grammar.parameterLists r, Builds InOrder r a := by
  have hstarEtc : ∀ q ∈ [Pattern.opt (.rule .starEtc)], ∀ v, Fits InOrder q v → Late v :=
    List.forall_mem_singleton.mpr fun _ => late_of_starEtc
  have hlate : ∀ q ∈ [Pattern.star (.rule .paramWithDefault), .opt (.rule .starEtc)],
      ∀ v, Fits InOrder q v → Late v :=
    List.forall_mem_cons.mpr ⟨fun _ => late_of_repeated, hstarEtc⟩
  unfold Grammar.parameterLists
  split
  all_goals try exact List.forall_mem_nil _
  all_goals try exact fun _ _ _ _ _ _ => trivial
  all_goals repeat' refine List.forall_mem_cons.mpr ⟨?_, ?_⟩
  all_goals try exact List.forall_mem_nil _
  all_goals try exact builds_wrong
  all_goals try exact builds_value fun _ => rfl
  all_goals try exact builds_same rfl fun _ h => h
  all_goals try exact builds_slashNoDefault rfl
  all_goals try exact builds_slashWithDefault rfl rfl
  all_goals try exact builds_keywordOnly rfl
  all_goals try exact builds_parameter rfl
  -- the five kinds of headers, and a single parameter
  · exact builds_parameters_of_slash hlate
  · exact builds_parameters (fun _ h => h) hlate
  · refine builds_parameters (fun v h => ?_) hlate
    rw [positional_of_repeated h]
    exact defaultsLast_of_required (required_of_repeated h)
  · exact builds_parameters (fun _ h => (late_of_repeated h).ordered) hstarEtc
  · exact builds_same rfl fun _ h => (late_of_starEtc (.inr h)).ordered
  · exact builds_same rfl fun _ ⟨_, htoken⟩ => htoken ▸ rfl

/-- Expressions hold no statements. -/
theorem builds_expressions (r : Rule) : ∀ a ∈ Grammar.expressions r, Builds InOrder r a := by
  unfold Grammar.expressions
  split
  all_goals try exact List.forall_mem_nil _
  all_goals try exact fun _ _ _ _ _ _ => trivial
  all_goals try exact builds_leftOperator (fun _ => rfl) fun _ h => h
  all_goals repeat' refine List.forall_mem_cons.mpr ⟨?_, ?_⟩
  all_goals try exact List.forall_mem_nil _
  all_goals try exact builds_wrong
  all_goals try exact builds_value fun _ => rfl
  all_goals try exact builds_same rfl fun _ h => h
  all_goals try exact builds_strings rfl
  all_goals try exact builds_of_unfit (i := 1) rfl fun _ h => h
  -- displays in brackets, of several kinds each
  all_goals
    refine builds_same rfl fun v hany => ?_
    simp only [Fits, fitsAny_rule_cons, not_fitsAny_nil, or_false] at hany
    casesm* _ ∨ _ <;> assumption

/-- Of the parameters of a lambda nothing is asked, for they head no statement. -/
theorem builds_lambdas (r : Rule) : ∀ a ∈ Grammar.lambdas r, Builds InOrder r a := by
  unfold Grammar.lambdas
  split
  all_goals try exact List.forall_mem_nil _
  all_goals try exact fun _ _ _ _ _ _ => trivial
  exact List.forall_mem_singleton.mpr (builds_value fun _ => rfl)

/-- Of what is built of a wrong expression nothing is asked. -/
theorem builds_wrongExpressions (r : Rule) :
    ∀ a ∈ Grammar.wrongExpressions r, Builds InOrder r a := by
  unfold Grammar.wrongExpressions
  split
  all_goals try exact List.forall_mem_nil _
  all_goals try exact fun _ _ _ _ _ _ => trivial
  all_goals repeat' refine List.forall_mem_cons.mpr ⟨?_, ?_⟩
  all_goals try exact List.forall_mem_nil _
  all_goals try exact builds_wrongAt
  exact builds_of_unfit (i := 2) rfl fun _ h => h

/-- **Every alternative** of every rule keeps in order what it builds. -/
theorem builds_alternatives (r : Rule) : ∀ a ∈ Grammar.alternatives r, Builds InOrder r a := by
  simp only [Grammar.alternatives, List.forall_mem_append]
  refine ⟨⟨⟨⟨⟨⟨⟨⟨⟨⟨⟨⟨builds_simpleStatements r, builds_compoundStatements r⟩,
    builds_parameterLists r⟩, builds_expressions r⟩, ?expressionLists⟩, builds_lambdas r⟩,
    ?callArguments⟩, ?targets⟩, ?matching⟩, builds_wrongExpressions r⟩, ?wrongParameterLists⟩,
    ?wrongSimpleStatements⟩, ?wrongCompoundStatements⟩
  -- nothing is asked of what the other rules build
  case expressionLists =>
    unfold Grammar.expressionLists
    split <;> first | exact List.forall_mem_nil _ | exact fun _ _ _ _ _ _ => trivial
  case callArguments =>
    unfold Grammar.callArguments
    split <;> first | exact List.forall_mem_nil _ | exact fun _ _ _ _ _ _ => trivial
  case targets =>
    unfold Grammar.targets
    split <;> first | exact List.forall_mem_nil _ | exact fun _ _ _ _ _ _ => trivial
  case matching =>
    unfold Grammar.matching
    split <;> first | exact List.forall_mem_nil _ | exact fun _ _ _ _ _ _ => trivial
  case wrongParameterLists =>
    unfold Grammar.wrongParameterLists
    split <;> first | exact List.forall_mem_nil _ | exact fun _ _ _ _ _ _ => trivial
  case wrongSimpleStatements =>
    unfold Grammar.wrongSimpleStatements
    split <;> first | exact List.forall_mem_nil _ | exact fun _ _ _ _ _ _ => trivial
  case wrongCompoundStatements =>
    unfold Grammar.wrongCompoundStatements
    split <;> first | exact List.forall_mem_nil _ | exact fun _ _ _ _ _ _ => trivial

/-- **The functions of a text have their parameters in order**, wherever they stand in it. -/
theorem Stmt.Orderly.of_parse {text : String} {body : List Stmt} (h : parse text = .ok body) :
    ∀ st ∈ body, st.Orderly := by
  rw [parse] at h
  cases hparse : Scene.parse ⟨tokensOf 1 text.toList,
      inspectStrings (blameInner text.toList.length)⟩ .file with
  | error line =>
    rw [hparse] at h
    cases h
  | ok value =>
    rw [hparse] at h
    obtain rfl := Except.ok.inj h
    exact Scene.built_of_parse builds_alternatives hparse

end ProviderRegistry.Source
