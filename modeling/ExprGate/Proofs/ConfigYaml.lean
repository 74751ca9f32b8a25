import ExprGate.Config.Yaml
import ExprGate.Proofs.ConfigJson
import ExprGate.Proofs.YamlDocuments
import ExprGate.Proofs.YamlNumbers

/-!
# Configurations in YAML and back

The document that is written for a configuration is a list of lines, each of which says where the
next one starts. Read line by line it is the node of the configuration, whatever characters the
command and the prelude have, and the fields of that node are those of the configuration.
-/

namespace ExprGate

open Yaml

/-! ## The node of a configuration -/

/-- A text as a node, in the style that it is written in. -/
def textNode (t : Text) : Node := .scalar none (styleOf t) t

/-- A name as a node. -/
def nameNode (name : String) : Node := .scalar none .plain name.toList

/-- A number as a node. -/
def numberNode (n : Nat) : Node := .scalar none .plain (natText n)

/-- A policy as a node. -/
def Policy.node (p : Policy) : Node :=
  .mapping [(nameNode "natural_language_max_len", numberNode p.naturalLanguageMaxLen),
    (nameNode "expression_max_len", numberNode p.expressionMaxLen)]

/-- The member for a prelude, if there is one. -/
def preludeMembers : Option Text → List (Node × Node)
  | some prelude => [(nameNode "prelude", textNode prelude)]
  | none => []

/-- Settings as a node. -/
def EvaluatorSettings.node (s : EvaluatorSettings) : Node :=
  .mapping ((nameNode "command", .sequence (s.command.map textNode)) ::
    (nameNode "timeout", textNode s.timeout.text) :: preludeMembers s.prelude)

/-- A configuration as a node. -/
def Config.node (c : Config) : Node :=
  .mapping [(nameNode "admission", c.admission.node), (nameNode "evaluator", c.evaluator.node)]

section fields

/-- A number of at most 64 bits is read from its node. -/
private theorem nat64?_numberNode {n : Nat} (h : n < wordBound) :
    (numberNode n).nat64? = some n := by
  rw [numberNode, Node.nat64?, if_pos (.inl rfl), natural?_natText]
  exact if_pos h

/-- A policy is read from its node. -/
theorem Policy.ofYaml?_node {p : Policy} (h : p.InRange) : ofYaml? p.node = some p := by
  have hfields : p.node.fields? ["natural_language_max_len", "expression_max_len"] =
      some [some (numberNode p.naturalLanguageMaxLen), some (numberNode p.expressionMaxLen)] := by
    rfl
  have hread : ofYaml? p.node = (do
      let natural ← (numberNode p.naturalLanguageMaxLen).nat64?
      let expression ← (numberNode p.expressionMaxLen).nat64?
      return ⟨natural, expression⟩) := by
    rw [ofYaml?, hfields]
    rfl
  rw [hread, nat64?_numberNode h.1, nat64?_numberNode h.2]
  rfl

/-- Texts are read from their nodes. -/
private theorem texts?_map_textNode (ts : List Text) :
    (Node.sequence (ts.map textNode)).texts? = some ts := by
  rw [Node.texts?, List.mapM_map]
  induction ts with
  | nil => rfl
  | cons t ts ih =>
    rw [List.mapM_cons, ih]
    rfl

/-- A text is not taken for nothing, since it is written plainly only where it is no spelling of
that. -/
private theorem optionalText?_textNode (t : Text) : (textNode t).optionalText? = some (some t) := by
  rcases styleOf_cases t with ⟨hstyle, hmeaning, -⟩ | ⟨hstyle, -⟩ | ⟨hstyle, -⟩ | hstyle
  · simp only [hasPlainMeaning, Bool.or_eq_false_iff] at hmeaning
    rw [textNode, hstyle, Node.optionalText?]
    simp [hmeaning]
  all_goals
    rw [textNode, hstyle]
    rfl

/-- Settings are read from their node. -/
theorem EvaluatorSettings.ofYaml?_node {s : EvaluatorSettings} (h : s.timeout.InRange) :
    ofYaml? s.node = some s := by
  obtain ⟨command, timeout, prelude⟩ := s
  have hfields : (node ⟨command, timeout, prelude⟩).fields? ["command", "timeout", "prelude"] =
      some [some (.sequence (command.map textNode)), some (textNode timeout.text),
        prelude.map textNode] := by
    cases prelude <;> rfl
  have htimeout : Duration.ofYaml? (textNode timeout.text) = some timeout :=
    Duration.ofYaml?_text h rfl
  cases prelude with
  | none =>
    have hread : ofYaml? (node ⟨command, timeout, none⟩) = (do
        let command ← (Node.sequence (command.map textNode)).texts?
        let timeout ← Duration.ofYaml? (textNode timeout.text)
        return ⟨command, timeout, none⟩) := by
      rw [ofYaml?, hfields]
      rfl
    rw [hread, texts?_map_textNode, htimeout]
    rfl
  | some prelude =>
    have hread : ofYaml? (node ⟨command, timeout, some prelude⟩) = (do
        let command ← (Node.sequence (command.map textNode)).texts?
        let timeout ← Duration.ofYaml? (textNode timeout.text)
        let prelude ← (textNode prelude).optionalText?
        return ⟨command, timeout, prelude⟩) := by
      rw [ofYaml?, hfields]
      rfl
    rw [hread, texts?_map_textNode, htimeout, optionalText?_textNode]
    rfl

/-- A configuration is read from its node. -/
theorem Config.ofYaml?_node {c : Config} (h : c.InRange) : ofYaml? c.node = some c := by
  have hfields : c.node.fields? ["admission", "evaluator"] =
      some [some c.admission.node, some c.evaluator.node] := by rfl
  have hread : ofYaml? c.node = (do
      let admission ← Policy.ofYaml? c.admission.node
      let evaluator ← EvaluatorSettings.ofYaml? c.evaluator.node
      return ⟨admission, evaluator⟩) := by
    rw [ofYaml?, hfields]
    rfl
  rw [hread, Policy.ofYaml?_node h.admission, EvaluatorSettings.ofYaml?_node h.timeout]
  rfl

end fields

/-! ## The lines of a document -/

namespace Config

/-- The line for a prelude, if there is one. -/
def preludeLine : Option Text → NextLine
  | some prelude =>
    .key 2 "prelude".toList (by rfl) (' ' :: (scalarLine 4 prelude ++ NextLine.done.text))
  | none => .done

/-- The line for a time limit, in front of another line. -/
def timeoutLine (timeout : Duration) (next : NextLine) : NextLine :=
  .key 2 "timeout".toList (by rfl) (' ' :: (scalarLine 4 timeout.text ++ next.text))

/-- The lines for the items of a command, in front of another line. -/
def itemLines (next : NextLine) : List Text → NextLine
  | [] => next
  | item :: items => .dash 2 (' ' :: (scalarLine 4 item ++ (itemLines next items).text))

/-- The line for settings with the given lines behind it. -/
def evaluatorLine (s : EvaluatorSettings) : NextLine :=
  .key 0 "evaluator".toList (by rfl) ('\n' :: (NextLine.key 2 "command".toList (by rfl)
    ('\n' :: (itemLines (timeoutLine s.timeout (preludeLine s.prelude)) s.command).text)).text)

/-- The line for a bound, in front of another line. -/
def boundLine (name : String) (hname : isKey name.toList = true) (n : Nat) (next : NextLine) :
    NextLine :=
  .key 2 name.toList hname (' ' :: (natText n ++ '\n' :: next.text))

/-- The first line of the document for a configuration. -/
def firstLine (c : Config) : NextLine :=
  .key 0 "admission".toList (by rfl) ('\n' ::
    (boundLine "natural_language_max_len" (by rfl) c.admission.naturalLanguageMaxLen
      (boundLine "expression_max_len" (by rfl) c.admission.expressionMaxLen
        (evaluatorLine c.evaluator))).text)

/-- A line of a mapping, with what follows it. -/
private theorem text_key (column : Nat) (name : Text) (hname : isKey name = true) (rest : Text) :
    (NextLine.key column name hname rest).text = margin column ++ name ++ ':' :: rest := by
  rw [NextLine.text, NextLine.key, List.append_assoc]

/-- A line with a name and a value is the first of what it is in front of. -/
private theorem yamlMember_append (name : String) (hname : isKey name.toList = true) (t : Text)
    (next : NextLine) : yamlMember 2 name t ++ next.text =
      (NextLine.key 2 name.toList hname (' ' :: (scalarLine 4 t ++ next.text))).text := by
  have hcolon : ": ".toList = [':', ' '] := rfl
  rw [text_key, yamlMember, hcolon]
  simp

/-- A line with a name and a number is the first of what it is in front of. -/
private theorem yamlNumber_append (name : String) (hname : isKey name.toList = true) (n : Nat)
    (next : NextLine) : yamlNumber 2 name n ++ next.text = (boundLine name hname n next).text := by
  have hcolon : ": ".toList = [':', ' '] := rfl
  rw [boundLine, text_key, yamlNumber, hcolon]
  simp

/-- A line with a name alone is the first of what it is in front of. -/
private theorem yamlHeading_append (depth : Nat) (name : String) (hname : isKey name.toList = true)
    (rest : Text) : yamlHeading depth name ++ rest =
      (NextLine.key depth name.toList hname ('\n' :: rest)).text := by
  have hcolon : ":\n".toList = [':', '\n'] := rfl
  rw [text_key, yamlHeading, hcolon]
  simp

/-- The lines for the items of a command are in front of what follows. -/
private theorem text_itemLines (next : NextLine) (items : List Text) :
    (itemLines next items).text = items.flatMap (yamlItem 2) ++ next.text := by
  induction items with
  | nil => rfl
  | cons item items ih =>
    have hdash : "- ".toList = ['-', ' '] := rfl
    rw [itemLines, NextLine.text, NextLine.dash, NextLine.starting, ih, List.flatMap_cons, yamlItem,
      hdash]
    simp

/-- The document of a configuration with a command is made up of these lines. -/
theorem toYaml_eq {c : Config} (h : c.evaluator.command ≠ []) : c.toYaml = c.firstLine.text := by
  have hprelude (before : Text) : (before ++ match c.evaluator.prelude with
      | some prelude => yamlMember 2 "prelude" prelude
      | none => []) = before ++ (preludeLine c.evaluator.prelude).text := by
    cases c.evaluator.prelude with
    | none => rfl
    | some prelude =>
      refine congrArg (before ++ ·) ?_
      exact (List.append_nil _).symm.trans (yamlMember_append _ (by rfl) _ .done)
  have hcommand : yamlCommand 2 c.evaluator.command =
      yamlHeading 2 "command" ++ c.evaluator.command.flatMap (yamlItem 2) := by
    obtain ⟨item, items, hitems⟩ := List.exists_cons_of_ne_nil h
    rw [hitems, yamlCommand]
    simp
  refine (hprelude _).trans ?_
  rw [hcommand]
  simp only [List.append_assoc]
  rw [yamlMember_append "timeout" (by rfl), ← timeoutLine, ← text_itemLines,
    yamlHeading_append 2 "command" (by rfl), yamlHeading_append 0 "evaluator" (by rfl),
    ← evaluatorLine, yamlNumber_append "expression_max_len" (by rfl),
    yamlNumber_append "natural_language_max_len" (by rfl),
    yamlHeading_append 0 "admission" (by rfl), ← firstLine]

/-! ## Reading the lines -/

section reading

variable (handles : Handles)

/-- The line for a prelude is read as the last member of the settings. -/
private theorem readsMembers_preludeLine (prelude : Option Text) (fuel : Nat) :
    ReadsMembers handles (fuel + 5) 2 (preludeLine prelude) (preludeMembers prelude) .done := by
  have hdone : ReadsMembers handles (fuel + 4) 2 .done [] .done :=
    readsMembers_nil handles (.inl rfl)
  cases prelude with
  | none => exact readsMembers_nil handles (.inl rfl)
  | some prelude =>
    exact readsMembers_cons handles (by rfl) (by rfl)
      (readsNode_scalarLine handles prelude (by decide) (by decide) (by decide)) hdone

/-- The line for a prelude starts in the column of the settings, or it is the end of the text. -/
private theorem column_preludeLine_lt (prelude : Option Text) :
    (preludeLine prelude).column < 3 := by
  cases prelude with
  | none => decide
  | some prelude => exact Nat.lt_succ_self 2

/-- The lines of a command are read as a sequence of its texts. -/
private theorem readsItems_itemLines {next : NextLine} (hcolumn : next.column < 3)
    (hdash : ∀ c ∈ next.rest.head?, c ≠ '-') (items : List Text) {fuel : Nat}
    (hfuel : items.length + 3 < fuel) :
    ReadsItems handles fuel 2 (itemLines next items) (items.map textNode) next := by
  have hcolumns (items : List Text) : (itemLines next items).column < 3 := by
    cases items with
    | nil => exact hcolumn
    | cons item items => exact (by decide : 2 < 3)
  induction items generalizing fuel with
  | nil =>
    obtain ⟨fuel, rfl⟩ : ∃ k, fuel = k + 1 := ⟨fuel - 1, by omega⟩
    exact readsItems_nil handles hdash
  | cons item items ih =>
    rw [List.length_cons] at hfuel
    obtain ⟨fuel, rfl⟩ : ∃ k, fuel = k + 3 + 1 := ⟨fuel - 4, by omega⟩
    exact readsItems_cons handles (by rfl)
      (readsNode_scalarLine handles item (by decide) (hcolumns items) (by decide)) (ih (by omega))

/-- The lines of settings are read as the last member of the configuration. -/
private theorem readsMembers_evaluatorLine {s : EvaluatorSettings} (hcommand : s.command ≠ [])
    {fuel : Nat} (hfuel : s.command.length ≤ fuel) :
    ReadsMembers handles (fuel + 12) 0 (evaluatorLine s) [(nameNode "evaluator", s.node)]
      .done := by
  have hdone : ReadsMembers handles (fuel + 11) 0 .done [] .done :=
    readsMembers_nil handles (.inl rfl)
  have htimeout : ReadsMembers handles (fuel + 7) 2
      (timeoutLine s.timeout (preludeLine s.prelude))
      ((nameNode "timeout", textNode s.timeout.text) :: preludeMembers s.prelude) .done :=
    readsMembers_cons handles (by rfl) (by rfl)
      (readsNode_scalarLine handles _ (by decide) (column_preludeLine_lt s.prelude) (by decide))
      (readsMembers_preludeLine handles s.prelude (fuel + 1))
  have hitems : ReadsItems handles (fuel + 4) 2
      (itemLines (timeoutLine s.timeout (preludeLine s.prelude)) s.command)
      (s.command.map textNode) (timeoutLine s.timeout (preludeLine s.prelude)) :=
    readsItems_itemLines handles (Nat.lt_succ_self 2)
      (fun c hc => by obtain rfl := Option.some.inj hc; decide) s.command (by omega)
  have hsequence : ReadsNode handles (fuel + 6) 3 true 10 false
      ('\n' :: (itemLines (timeoutLine s.timeout (preludeLine s.prelude)) s.command).text)
      (.sequence (s.command.map textNode)) (timeoutLine s.timeout (preludeLine s.prelude)) := by
    obtain ⟨item, items, hcons⟩ := List.exists_cons_of_ne_nil hcommand
    rw [hcons] at hitems ⊢
    exact readsNode_sequence handles (by rfl) hitems
  exact readsMembers_cons handles (by rfl) (by rfl)
    (readsNode_mapping handles (by rfl) (by rfl) (by decide)
      (readsMembers_cons handles (by rfl) (by rfl) hsequence htimeout)) hdone

/-- The line of a bound is read as a member of the policy. -/
private theorem readsMembers_boundLine (name : String) (hname : isKey name.toList = true)
    (n : Nat) {next stop : NextLine} (hcolumn : next.column < 3) {members : List (Node × Node)}
    {fuel : Nat} (hmembers : ReadsMembers handles (fuel + 4) 2 next members stop) :
    ReadsMembers handles (fuel + 5) 2 (boundLine name hname n next)
      ((nameNode name, numberNode n) :: members) stop :=
  readsMembers_cons handles hname (by rfl)
    (readsNode_plain handles (plain_natText n) (isNumeral_natText n).1 hcolumn (by omega)) hmembers

/-- The lines of a configuration with a command are read as the members of its node. -/
private theorem readsMembers_firstLine {c : Config} (hcommand : c.evaluator.command ≠ [])
    {fuel : Nat} (hfuel : c.evaluator.command.length + 13 ≤ fuel) :
    ReadsMembers handles fuel 0 c.firstLine
      [(nameNode "admission", c.admission.node), (nameNode "evaluator", c.evaluator.node)]
      .done := by
  obtain ⟨fuel, rfl⟩ : ∃ k, fuel = k + 13 := ⟨fuel - 13, by omega⟩
  have hover : ReadsMembers handles (fuel + 7) 2 (evaluatorLine c.evaluator) []
      (evaluatorLine c.evaluator) :=
    readsMembers_nil handles (.inr Nat.two_pos)
  have hbounds := readsMembers_boundLine handles "natural_language_max_len" (by rfl)
    c.admission.naturalLanguageMaxLen (Nat.lt_succ_self 2)
    (readsMembers_boundLine handles "expression_max_len" (by rfl)
      c.admission.expressionMaxLen (by decide : 0 < 3) hover)
  exact readsMembers_cons handles (by rfl) (by rfl)
    (readsNode_mapping handles (by rfl) (by rfl) (by decide) hbounds)
    (readsMembers_evaluatorLine handles hcommand (by omega))

end reading

section printable

variable {name : String} (hname : name.toList.all isPrintable = true)

include hname

/-- A line with a printable name alone is printable. -/
private theorem printable_yamlHeading (depth : Nat) : Printable (yamlHeading depth name) :=
  ((printable_margin depth).append (printable_of_all hname)).append (printable_of_all (by rfl))

/-- A line with a printable name and a number is printable. -/
private theorem printable_yamlNumber (depth n : Nat) : Printable (yamlNumber depth name n) :=
  .append (.append (.append (.append (printable_margin depth) (printable_of_all hname))
    (printable_of_all (by rfl))) (plain_natText n).printable) (printable_of_all (by rfl))

/-- A line with a printable name and a text is printable, whatever characters the text has. -/
private theorem printable_yamlMember (depth : Nat) (t : Text) :
    Printable (yamlMember depth name t) :=
  .append (.append (.append (printable_margin depth) (printable_of_all hname))
    (printable_of_all (by rfl))) (printable_scalarLine _ t)

end printable

/-- The document of a configuration is printable, whatever characters its texts have. -/
theorem printable_toYaml (c : Config) : Printable c.toYaml := by
  have hitem (item : Text) : Printable (yamlItem 2 item) :=
    ((printable_margin 2).append (printable_of_all (by rfl))).append (printable_scalarLine _ item)
  have hcommand : Printable (yamlCommand 2 c.evaluator.command) := by
    cases c.evaluator.command with
    | nil => exact printable_of_all (by rfl)
    | cons item items =>
      refine (printable_yamlHeading (by rfl) 2).append fun d hd => ?_
      obtain ⟨item, -, hitem'⟩ := List.mem_flatMap.mp hd
      exact hitem item d hitem'
  have hprelude : Printable (match c.evaluator.prelude with
      | some prelude => yamlMember 2 "prelude" prelude
      | none => []) := by
    cases c.evaluator.prelude with
    | none => exact printable_of_all rfl
    | some prelude => exact printable_yamlMember (by rfl) 2 prelude
  exact .append (.append (.append (.append (.append (.append
    (printable_yamlHeading (by rfl) 0) (printable_yamlNumber (by rfl) 2 _))
    (printable_yamlNumber (by rfl) 2 _)) (printable_yamlHeading (by rfl) 0)) hcommand)
    (printable_yamlMember (by rfl) 2 _)) hprelude

/-- The node of a configuration repeats nothing. -/
theorem resolve?_node (c : Config) : c.node.resolve? = some c.node := by
  have hitems (names : Node.Names) (ts : List Text) :
      Node.resolveItems names (ts.map textNode) = some (ts.map textNode, names) := by
    induction ts with
    | nil => rfl
    | cons t ts ih =>
      rw [List.map_cons, Node.resolveItems, textNode, Node.resolveFrom]
      simp only [ih]
  have hsettings (names : Node.Names) :
      Node.resolveFrom names c.evaluator.node = some (c.evaluator.node, names) := by
    obtain ⟨command, timeout, prelude⟩ := c.evaluator
    cases prelude <;>
      simp only [EvaluatorSettings.node, preludeMembers, nameNode, textNode, Node.resolveFrom,
        Node.resolveMembers, hitems]
  rw [Node.resolve?, node]
  simp only [Policy.node, numberNode, nameNode, Node.resolveFrom, Node.resolveMembers, hsettings]
  rfl

/-- The items of a command take at least a character each. -/
private theorem length_le_yamlCommand (items : List Text) :
    items.length ≤ (yamlCommand 2 items).length := by
  have hitems (items : List Text) : items.length ≤ (items.flatMap (yamlItem 2)).length := by
    induction items with
    | nil => exact Nat.le_refl 0
    | cons item items ih =>
      rw [List.flatMap_cons, List.length_append, List.length_cons, yamlItem, margin]
      simp only [List.length_append, List.length_replicate]
      omega
  cases items with
  | nil => exact Nat.zero_le _
  | cons item items =>
    rw [yamlCommand, List.length_append]
    · exact Nat.le_trans (hitems _) (Nat.le_add_left _ _)
    · simp

/-- The document of a configuration with a command is read as its node. -/
theorem parse?_toYaml {c : Config} (h : c.evaluator.command ≠ []) :
    Yaml.parse? c.toYaml = some c.node := by
  have hlength : c.evaluator.command.length ≤ c.toYaml.length := by
    have hcommand := length_le_yamlCommand c.evaluator.command
    simp only [toYaml, List.length_append]
    omega
  have hprintable : Printable c.firstLine.text := toYaml_eq h ▸ c.printable_toYaml
  rw [toYaml_eq h] at hlength ⊢
  refine (parse?_mapping (by rfl) (by rfl) hprintable
    (readsMembers_firstLine Handles.standard h ?_)).trans c.resolve?_node
  change c.evaluator.command.length + 13 ≤ 8 * c.firstLine.text.length + 6
  have hpositive : 0 < c.firstLine.text.length := Nat.succ_pos _
  omega

/-- The document that is written for a configuration without fault is loaded as that configuration,
whatever texts its command and its prelude are. -/
theorem fromYaml_toYaml {c : Config} (h : c.InRange) (hvalid : c.validate = .ok ()) :
    fromYaml c.toYaml = .ok c := by
  have hcommand : c.evaluator.command ≠ [] := by
    obtain ⟨-, -, hprogram, -⟩ := validate_eq_ok_iff.mp hvalid
    intro hnil
    rw [EvaluatorSettings.program?, hnil] at hprogram
    cases hprogram
  refine fromYaml_eq_ok_iff.mpr ⟨?_, hvalid⟩
  rw [parseYaml?, parse?_toYaml hcommand]
  exact ofYaml?_node h

end Config

end ExprGate
