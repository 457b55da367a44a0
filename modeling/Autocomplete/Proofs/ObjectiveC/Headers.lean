import Autocomplete.Proofs.Scan.Reading
import Autocomplete.Proofs.Text.Lines
import Autocomplete.Rules.ObjectiveC
import Mathlib.Data.List.Basic

/-!
# Headers

A header that is made of interface lines and method declarations gives back one suggestion for each
declaration, in their order. The types in the declarations are arbitrary balanced texts, so a line
is told apart by its first characters alone, and every part of a selector is read to the end of the
name of its argument before the next one is looked for.
-/

namespace Autocomplete
namespace ObjectiveC

open Scan Text

/-- What stands between the brackets of a type. -/
structure TypeText where
  chars : List Char
  balanced : Balanced '(' ')' chars := by decide +kernel
  newline_not_mem : '\n' ∉ chars := by decide
  at_not_mem : '@' ∉ chars := by decide

/-- A part of a selector with its argument. -/
structure Part where
  selector : Identifier
  type : TypeText
  argument : Identifier

def Part.chars (p : Part) : List Char :=
  p.selector.chars ++ ':' :: '(' :: (p.type.chars ++ ')' :: p.argument.chars)

structure Method where
  result : TypeText
  first : Part
  rest : List Part

namespace Method

def chars (m : Method) : List Char :=
  "- (".toList ++ (m.result.chars ++ ')' :: (m.first.chars ++
    (m.rest.flatMap (fun p => ' ' :: p.chars) ++ [';'])))

/-- Initializers are the methods with one of these results. -/
def isInitializer (m : Method) : Bool :=
  m.result.chars = "instancetype".toList || m.result.chars = "nullable instancetype".toList

end Method

/-- A line of a header. -/
inductive HeaderLine where
  | interface (name parent : Identifier)
  | method (m : Method)

namespace HeaderLine

def chars : HeaderLine → List Char
  | interface name parent =>
    '@' :: ("interface ".toList ++ (name.chars ++ (" : ".toList ++ parent.chars)))
  | method m => m.chars

def interface? : HeaderLine → Option Identifier
  | interface name _ => some name
  | method _ => none

end HeaderLine

/-- The name of the last interface in some lines. -/
def lastInterface (above : List HeaderLine) : Option Identifier :=
  (above.filterMap HeaderLine.interface?).getLast?

def stop (index : Nat) (name : Identifier) : String :=
  "$\x7b" ++ toString index ++ ":" ++ name.text ++ "\x7d"

/-- The label of the first argument of an initializer. -/
def initialLabel (selector : List Char) : List Char :=
  match selector.drop 8 with
  | first :: rest =>
    if selector.take 8 = "initWith".toList then lowerChar first ++ rest else selector
  | [] => selector

/-- The arguments after the first one, with their labels. -/
def labelledStops (rest : List Part) (index : Nat) : List String :=
  (rest.zipIdx index).map fun (p, i) => p.selector.text ++ ": " ++ stop i p.argument

namespace Method

def suggestionBelow? (interface : Option Identifier) (m : Method) : Option Suggestion :=
  if m.isInitializer then
    interface.map fun owner => ⟨owner.text, ", ".intercalate
      ((String.ofList (initialLabel m.first.selector.chars) ++ ": " ++ stop 1 m.first.argument) ::
        labelledStops m.rest 2)⟩
  else some ⟨m.first.selector.text,
    ", ".intercalate (stop 1 m.first.argument :: labelledStops m.rest 2)⟩

end Method

/-- The suggestion of a line below the given interface. -/
def HeaderLine.suggestionBelow? (interface : Option Identifier) : HeaderLine → Option Suggestion
  | .interface _ _ => none
  | .method m => m.suggestionBelow? interface

/-- The suggestions of the lines of a header, each below the last interface above it. -/
def suggestions (header : List HeaderLine) : List Suggestion :=
  header.zipIdx.filterMap fun (line, i) => line.suggestionBelow? (lastInterface (header.take i))

/-! ### The parts of a selector -/

def partSteps : List Step :=
  [Step.spacedWord.saving, Step.literal ":", Step.bracket '(' ')', Step.word.saving]

def Part.pair (p : Part) : String × String := (p.selector.text, p.argument.text)

theorem head_parts (ps : List Part) :
    (ps.flatMap (fun p => ' ' :: p.chars) ++ [';']).head?.any isNameChar = false := by
  cases ps with
  | nil => decide
  | cons p ps =>
    have hblank : isNameChar ' ' = false := by decide
    simpa using hblank

theorem finds_part (p : Part) {gap left : List Char} {found : List Match}
    (hgap : gap.all (· == ' ') = true) (hleft : left.head?.any isNameChar = false)
    (h : Finds partSteps left found) :
    Finds partSteps (gap ++ (p.chars ++ left)) (Match.ofPair p.pair :: found) := by
  have hcolon : (Probe.literal ":".toList).Hits [] ":".toList
      (('(' :: (p.type.chars ++ [')'])) ++ (p.argument.chars ++ left)) := by
    apply Probe.hits_literal
    · trivial
    · decide
  have hargument := Reads.word p.argument hleft (Reads.nil left)
  have htype := Reads.plain (by simp) (Probe.hits_bracket p.type.balanced (by decide)) hargument
  have hparts := Reads.plain (by simp) hcolon htype
  have hselector := Finds.saving (Probe.hits_spacedWord hgap p.selector rfl) p.selector.nonempty
    hparts h
  have htext : p.chars ++ left = p.selector.chars ++ ([] ++ (":".toList ++ ([] ++
      (('(' :: (p.type.chars ++ [')'])) ++ ([] ++ (p.argument.chars ++ left)))))) := by
    simp [Part.chars]
  rw [htext]
  exact hselector

theorem finds_parts (ps : List Part) :
    Finds partSteps (ps.flatMap (fun p => ' ' :: p.chars) ++ [';'])
      ((ps.map Part.pair).map Match.ofPair) := by
  induction ps with
  | nil =>
    apply Finds.skip (Probe.misses_spacedWord (by decide) (by decide))
    exact Finds.nil partSteps
  | cons p ps ih =>
    have hgap : [' '].all (· == ' ') = true := rfl
    simpa using finds_part p hgap (head_parts ps) ih

theorem finds_method (m : Method) :
    Finds methodParts.steps m.chars (((m.first :: m.rest).map Part.pair).map Match.ofPair) := by
  have hbegin : (Probe.literal "- (".toList).Hits [] ("- ".toList ++ ['('])
      (m.result.chars ++ ')' :: (m.first.chars ++
        (m.rest.flatMap (fun p => ' ' :: p.chars) ++ [';']))) := by
    apply Probe.hits_literal
    · trivial
    · decide
  have hparts := finds_part m.first List.all_nil (head_parts m.rest) (finds_parts m.rest)
  have hresult := Reads.plain (by simp) (Probe.hits_bracket m.result.balanced (by decide))
    (Reads.repeating hparts)
  rw [List.nil_append, List.cons_append, List.append_assoc, List.singleton_append] at hresult
  have hmethod := Reads.reread hbegin (by simp) hresult List.nil_suffix
  have hfinds := Finds.of_reads rfl (by simp) hmethod (Finds.nil methodParts.steps)
  rw [List.append_nil] at hfinds
  exact hfinds

/-- The parts of a declaration are read back. -/
theorem partsOf_method (m : Method) :
    partsOf (String.ofList m.chars) = (m.first :: m.rest).map Part.pair := by
  rw [partsOf, Rule.findAll_of_finds (finds_method m), Match.filterMap_pair?_map_ofPair]

theorem findAll_interface (name parent : Identifier) :
    interfaceName.findAll (String.ofList (HeaderLine.interface name parent).chars) =
      [[.text name.text]] := by
  have hat : '@' ∉ parent.chars := parent.not_mem (by decide)
  have hkeyword : (Probe.literal "@interface".toList).Hits [] "@interface".toList
      ([' '] ++ (name.chars ++ (" : ".toList ++ parent.chars))) := by
    apply Probe.hits_literal
    · trivial
    · decide
  have hname := Reads.saving (name.append_ne_nil _)
    (Probe.hits_spacedWord (rfl : [' '].all (· == ' ') = true) name rfl)
    (Reads.nil (" : ".toList ++ parent.chars))
  have hlater : Finds interfaceName.steps (" : ".toList ++ parent.chars) [] :=
    Finds.end_of_not_mem (c := '@') rfl rfl (by simpa using hat)
  exact Rule.findAll_of_finds (Finds.plain hkeyword (by decide) hname hlater)

/-! ### Kinds of lines -/

theorem kind_interface (name parent : Identifier) :
    LineKind.ofLine (HeaderLine.interface name parent).chars = .interface := by
  have hcontains :
      contains "@interface ".toList (HeaderLine.interface name parent).chars = true := by
    rw [contains_iff_isInfix]
    exact (List.prefix_append _ _).isInfix
  rw [LineKind.ofLine, hcontains, if_pos rfl]

/-- A balanced text up to the bracket around it is known from any text that goes on with this
bracket. -/
theorem prefix_bracket_iff {inside left x : List Char} (h : Balanced '(' ')' inside)
    (hopening : '(' ∉ x) (hclosing : ')' ∉ x) :
    x ++ [')'] <+: inside ++ ')' :: left ↔ inside = x := by
  constructor
  · rintro ⟨tail, heq⟩
    rw [List.append_assoc, List.append_eq_append_iff] at heq
    rcases heq with ⟨more, rfl, hmore⟩ | ⟨more, rfl, hmore⟩
    · cases more with
      | nil => rw [List.append_nil]
      | cons c more =>
        -- The bracket would be closed inside of the balanced text.
        obtain ⟨rfl, -⟩ := List.cons.inj hmore
        have hle := h.count_le (x ++ [')']) (by simp)
        simp [List.count_append, List.count_eq_zero_of_not_mem hopening] at hle
    · cases more with
      | nil => rw [List.append_nil]
      | cons c more =>
        obtain ⟨rfl, -⟩ := List.cons.inj hmore
        exact absurd (List.mem_append_right _ List.mem_cons_self) hclosing
  · rintro rfl
    simp

theorem prefix_method_iff (m : Method) {x : List Char} (hopening : '(' ∉ x) (hclosing : ')' ∉ x) :
    ("- (".toList ++ (x ++ [')'])).isPrefixOf m.chars = true ↔ m.result.chars = x := by
  rw [List.isPrefixOf_iff_prefix, Method.chars, List.prefix_append_right_inj,
    prefix_bracket_iff m.result.balanced hopening hclosing]

/-- A character that is in no type is in a declaration only as a mark. -/
theorem not_mem_method {c : Char} (hname : isNameChar c = false)
    (hmark : c ≠ '-' ∧ c ≠ ' ' ∧ c ≠ '(' ∧ c ≠ ')' ∧ c ≠ ':' ∧ c ≠ ';')
    (htype : ∀ t : TypeText, c ∉ t.chars) (m : Method) : c ∉ m.chars := by
  have hpart : ∀ p : Part, c ∉ p.chars := by
    intro p
    have hselector : c ∉ p.selector.chars := p.selector.not_mem hname
    have hargument : c ∉ p.argument.chars := p.argument.not_mem hname
    simp [Part.chars, hselector, hargument, hmark, htype]
  simp [Method.chars, hmark, htype, hpart]

theorem kind_method (m : Method) :
    LineKind.ofLine m.chars = if m.isInitializer then .initializer else .method := by
  have hat : contains "@interface ".toList m.chars = false := by
    rw [Bool.eq_false_iff]
    intro hcontains
    have hmem := (contains_iff_isInfix.mp hcontains).subset List.mem_cons_self
    exact not_mem_method (by decide) (by decide) TypeText.at_not_mem m hmem
  have hplain : "- (instancetype)".toList.isPrefixOf m.chars =
      decide (m.result.chars = "instancetype".toList) := by
    rw [Bool.eq_iff_iff, decide_eq_true_iff]
    exact prefix_method_iff m (x := "instancetype".toList) (by decide) (by decide)
  have hnullable : "- (nullable instancetype)".toList.isPrefixOf m.chars =
      decide (m.result.chars = "nullable instancetype".toList) := by
    rw [Bool.eq_iff_iff, decide_eq_true_iff]
    exact prefix_method_iff m (x := "nullable instancetype".toList) (by decide) (by decide)
  have hbracket : "- (".toList.isPrefixOf m.chars = true := by
    rw [List.isPrefixOf_iff_prefix]
    exact List.prefix_append _ _
  rw [LineKind.ofLine, hat, if_neg Bool.false_ne_true, hplain, hnullable, hbracket,
    Method.isInitializer, if_pos rfl]

/-! ### Suggestions -/

theorem initializerLabel_eq (i : Identifier) :
    initializerLabel i.text = String.ofList (initialLabel i.chars) := by
  have htext : i.text.toList = i.chars := String.toList_ofList
  rw [initializerLabel, htext, initialLabel]
  cases hbegins : "initWith".toList.isPrefixOf? i.chars with
  | none =>
    have htake : i.chars.take 8 ≠ "initWith".toList := by
      intro htake
      have hsplit := List.isPrefixOf?_eq_some_iff_append_eq.mpr (List.take_append_drop 8 i.chars)
      rw [htake, hbegins] at hsplit
      exact absurd hsplit (by simp)
    cases i.chars.drop 8 with
    | nil => rfl
    | cons first rest =>
      dsimp only
      rw [if_neg htake]
      rfl
  | some rest =>
    have hchars := List.isPrefixOf?_eq_some_iff_append_eq.mp hbegins
    have hdrop : i.chars.drop 8 = rest := by
      rw [← hchars]
      rfl
    have htake : i.chars.take 8 = "initWith".toList := by
      rw [← hchars]
      rfl
    rw [hdrop]
    cases rest with
    | nil => rfl
    | cons first rest =>
      dsimp only
      rw [if_pos htake]

theorem append_laterArguments (shown : String) (index : Nat) (rest : List Part) :
    shown ++ laterArguments index (rest.map Part.pair) =
      ", ".intercalate (shown :: labelledStops rest index) := by
  induction rest generalizing shown index with
  | nil => simp [laterArguments, labelledStops]
  | cons p rest ih =>
    have hlater := ih (p.selector.text ++ ": " ++ stop index p.argument) (index + 1)
    have hstops : labelledStops (p :: rest) index =
        (p.selector.text ++ ": " ++ stop index p.argument) :: labelledStops rest (index + 1) := rfl
    rw [hstops, String.intercalate_cons_cons, ← hlater, List.map_cons, Part.pair, laterArguments]
    simp only [Snippet.labeled, Snippet.placeholder, stop, String.append_assoc]

theorem suggestion?_method (interface : Option Identifier) (m : Method) :
    suggestion? (interface.map Identifier.text) (String.ofList m.chars) (LineKind.ofLine m.chars) =
      m.suggestionBelow? interface := by
  have hparts := partsOf_method m
  rw [List.map_cons] at hparts
  rw [kind_method, Method.suggestionBelow?]
  cases m.isInitializer with
  | false =>
    have hstops := append_laterArguments (stop 1 m.first.argument) 2 m.rest
    rw [if_neg Bool.false_ne_true, if_neg Bool.false_ne_true, suggestion?, hparts, ← hstops]
    rfl
  | true =>
    have hstops := append_laterArguments
      (String.ofList (initialLabel m.first.selector.chars) ++ ": " ++ stop 1 m.first.argument)
      2 m.rest
    rw [if_pos rfl, if_pos rfl, suggestion?.eq_def, ← hstops]
    dsimp only
    rw [hparts]
    cases interface with
    | none => rfl
    | some owner =>
      simp only [Option.map_some, Part.pair, initializerLabel_eq]
      rfl

/-! ### Headers -/

theorem lastInterface_interface (above : List HeaderLine) (name parent : Identifier) :
    lastInterface (above ++ [.interface name parent]) = some name := by
  simp [lastInterface, HeaderLine.interface?]

theorem lastInterface_method (above : List HeaderLine) (m : Method) :
    lastInterface (above ++ [.method m]) = lastInterface above := by
  simp [lastInterface, HeaderLine.interface?]

/-- The interface that is kept from line to line is the last one above each line. -/
theorem methodsBelow_eq (header above : List HeaderLine) :
    methodsBelow ((lastInterface above).map Identifier.text) (header.map HeaderLine.chars) =
      header.zipIdx.filterMap fun (line, i) =>
        line.suggestionBelow? (lastInterface (above ++ header.take i)) := by
  induction header generalizing above with
  | nil => rfl
  | cons line header ih =>
    have hlater := ih (above ++ [line])
    simp only [List.append_assoc, List.singleton_append] at hlater
    rw [List.map_cons, methodsBelow, List.zipIdx_cons', List.filterMap_cons, List.filterMap_map]
    cases line with
    | interface name parent =>
      have hkind := kind_interface name parent
      have hafter : interfaceAfter ((lastInterface above).map Identifier.text)
          (String.ofList (HeaderLine.interface name parent).chars) = some name.text := by
        rw [interfaceAfter, findAll_interface]
        rfl
      rw [lastInterface_interface, Option.map_some] at hlater
      dsimp only
      rw [if_pos hkind, hafter, hlater]
      rfl
    | method m =>
      have hkind : LineKind.ofLine (HeaderLine.method m).chars ≠ .interface := by
        rw [HeaderLine.chars, kind_method]
        cases m.isInitializer <;> decide
      rw [lastInterface_method] at hlater
      have hline : suggestion? ((lastInterface above).map Identifier.text)
          (String.ofList (HeaderLine.method m).chars)
          (LineKind.ofLine (HeaderLine.method m).chars) =
          m.suggestionBelow? (lastInterface above) := suggestion?_method _ m
      have htake : above ++ (HeaderLine.method m :: header).take 0 = above := by simp
      dsimp only
      rw [if_neg hkind, hline, hlater, htake, HeaderLine.suggestionBelow?]
      cases m.suggestionBelow? (lastInterface above) <;> rfl

theorem trim_line (line : HeaderLine) : trim line.chars = line.chars := by
  cases line with
  | interface name parent =>
    have hlast : isBlank (parent.chars.getLast parent.nonempty) = false :=
      isBlank_of_isNameChar (parent.isNameChar_of_mem (List.getLast_mem parent.nonempty))
    have hsplit : (HeaderLine.interface name parent).chars = '@' :: (("interface ".toList ++
        (name.chars ++ (" : ".toList ++ parent.chars.dropLast))) ++
          [parent.chars.getLast parent.nonempty]) := by
      simp [HeaderLine.chars, List.dropLast_append_getLast]
    rw [hsplit]
    exact trim_of_ends (by decide) hlast _
  | method m =>
    have hsplit : (HeaderLine.method m).chars = '-' :: ((" (".toList ++ (m.result.chars ++ ')' ::
        (m.first.chars ++ m.rest.flatMap (fun p => ' ' :: p.chars)))) ++ [';']) := by
      simp [HeaderLine.chars, Method.chars]
    rw [hsplit]
    exact trim_of_ends (by decide) (by decide) _

theorem newline_not_mem_line (line : HeaderLine) : '\n' ∉ line.chars := by
  cases line with
  | interface name parent =>
    have hname : '\n' ∉ name.chars := name.not_mem (by decide)
    have hparent : '\n' ∉ parent.chars := parent.not_mem (by decide)
    simp [HeaderLine.chars, hname, hparent]
  | method m => exact not_mem_method (by decide) (by decide) TypeText.newline_not_mem m

/-- A header gives back a suggestion for each of its declarations, below the last interface above
it where this is an initializer. -/
theorem headers_give_back_their_methods (header : List HeaderLine) :
    methods (String.ofList (unlines (header.map HeaderLine.chars))) = suggestions header := by
  rw [methods, String.toList_ofList]
  cases header with
  | nil => rfl
  | cons line header =>
    have hlines : lines (unlines ((line :: header).map HeaderLine.chars)) =
        (line :: header).map HeaderLine.chars := by
      apply lines_unlines (by simp)
      intro chars hchars
      obtain ⟨line, -, rfl⟩ := List.mem_map.mp hchars
      exact newline_not_mem_line line
    have htrim : trim ∘ HeaderLine.chars = HeaderLine.chars := funext trim_line
    rw [hlines, List.map_map, htrim]
    exact methodsBelow_eq (line :: header) []

/-- A block that takes another one. -/
def block : TypeText where
  chars := "void (^)(BOOL (^)(int))".toList

def whenDone : Part where
  selector := { chars := "whenDone".toList }
  type := block
  argument := { chars := "block".toList }

def withName : Part where
  selector := { chars := "initWithName".toList }
  type := { chars := "NSString *".toList }
  argument := { chars := "name".toList }

def playerHeader : List HeaderLine := [
  .interface { chars := "Player".toList } { chars := "NSObject".toList },
  .method ⟨{ chars := "nullable instancetype".toList }, withName, [whenDone]⟩,
  .method ⟨block, whenDone, []⟩]

theorem headers_give_back_their_methods_of_blocks :
    String.ofList (unlines (playerHeader.map HeaderLine.chars)) =
        "@interface Player : NSObject\n" ++
        "- (nullable instancetype)initWithName:(NSString *)name " ++
          "whenDone:(void (^)(BOOL (^)(int)))block;\n" ++
        "- (void (^)(BOOL (^)(int)))whenDone:(void (^)(BOOL (^)(int)))block;" ∧
      methods (String.ofList (unlines (playerHeader.map HeaderLine.chars))) =
        [⟨"Player", "name: ${1:name}, whenDone: ${2:block}"⟩, ⟨"whenDone", "${1:block}"⟩] := by
  refine ⟨by decide +kernel, ?_⟩
  rw [headers_give_back_their_methods]
  decide +kernel

end ObjectiveC
end Autocomplete
