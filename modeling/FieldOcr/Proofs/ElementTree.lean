import FieldOcr.Markup.Reader

/-!
# The tree of a document

The events of a document whose tags all match denote one list of nodes, the
elements and the character data on the outermost level.  Whatever the reader
delivers, its closing tags match; so a document whose tags are all closed
denotes a tree.
-/

namespace FieldOcr
namespace Markup

/-- An element or a piece of character data. -/
inductive Node
  | element (tag : Tag) (content : List Node)
  | characters (raw : List Char)
  | literal (text : List Char)

/-- Events denote the nodes of one level.  An element is a tag that closes
itself, or what stands between an opening tag and the closing tag of the same
name.  Other markup denotes nothing. -/
inductive Denotes : List Event -> List Node -> Prop
  | nil : Denotes [] []
  | selfClosing {tag : Tag} {events : List Event} {nodes : List Node}
      (rest : Denotes events nodes) :
      Denotes (.selfClosing tag :: events) (.element tag [] :: nodes)
  | element
      {tag : Tag}
      {inside events : List Event}
      {content nodes : List Node}
      (enclosed : Denotes inside content)
      (rest : Denotes events nodes) :
      Denotes (.opening tag :: (inside ++ .closing tag.name :: events))
        (.element tag content :: nodes)
  | characters {raw : List Char} {events : List Event} {nodes : List Node}
      (rest : Denotes events nodes) :
      Denotes (.characters raw :: events) (.characters raw :: nodes)
  | literal {text : List Char} {events : List Event} {nodes : List Node}
      (rest : Denotes events nodes) :
      Denotes (.literal text :: events) (.literal text :: nodes)
  | doctype {events : List Event} {nodes : List Node}
      (rest : Denotes events nodes) :
      Denotes (.doctype :: events) nodes
  | ignored {events : List Event} {nodes : List Node}
      (rest : Denotes events nodes) :
      Denotes (.ignored :: events) nodes

/-! ## Events denote one tree -/

/-- A level of nodes that grows, and the elements that are open around it. -/
structure Growth where
  /-- The nodes of the innermost level so far. -/
  front : List Node
  /-- The open elements, innermost first, with the nodes in front of them. -/
  outer : List (Tag × List Node)

/-- A growth with one more node on its innermost level. -/
def Growth.add (growth : Growth) (node : Node) : Growth :=
  { growth with front := growth.front ++ [node] }

/-- A growth after one more event. -/
def Growth.after (growth : Growth) : Event -> Growth
  | .opening tag => ⟨[], (tag, growth.front) :: growth.outer⟩
  | .selfClosing tag => growth.add (.element tag [])
  | .closing _ =>
      match growth.outer with
      | [] => growth
      | (tag, front) :: outer =>
          Growth.add ⟨front, outer⟩ (.element tag growth.front)
  | .characters raw => growth.add (.characters raw)
  | .literal text => growth.add (.literal text)
  | .doctype | .ignored => growth

/-- Events add the nodes that they denote. -/
theorem Denotes.foldl_after
    {events : List Event}
    {nodes : List Node}
    (denotes : Denotes events nodes)
    (growth : Growth) :
    events.foldl Growth.after growth =
      { growth with front := growth.front ++ nodes } := by
  induction denotes generalizing growth with
  | nil => simp
  | selfClosing rest inductionHypothesis
  | characters rest inductionHypothesis
  | literal rest inductionHypothesis =>
      rw [List.foldl_cons, inductionHypothesis]
      simp [Growth.after, Growth.add]
  | element enclosed rest insideHypothesis restHypothesis =>
      rw [List.foldl_cons, List.foldl_append, insideHypothesis,
        List.foldl_cons, restHypothesis]
      simp [Growth.after, Growth.add]
  | doctype rest inductionHypothesis | ignored rest inductionHypothesis =>
      rw [List.foldl_cons, inductionHypothesis]
      rfl

/-- Events denote one list of nodes at most. -/
theorem Denotes.unique
    {events : List Event}
    {first second : List Node}
    (firstDenoted : Denotes events first)
    (secondDenoted : Denotes events second) :
    first = second := by
  have grown :=
    (firstDenoted.foldl_after ⟨[], []⟩).symm.trans
      (secondDenoted.foldl_after ⟨[], []⟩)
  simpa using grown

/-! ## The reader matches closing tags -/

/-- Events lead from some open tags to others if each closing tag has the name
of the innermost one that is open. -/
inductive Leads :
    List (List Char) -> List Event -> List (List Char) -> Prop
  | nil {names : List (List Char)} : Leads names [] names
  | cons
      {names final : List (List Char)}
      {event : Event}
      {events : List Event}
      (matched : ∀ name, event = .closing name -> names.head? = some name)
      (rest : Leads (openAfter names event) events final) :
      Leads names (event :: events) final

/-- The reader delivers a closing tag only if it matches. -/
theorem readConstruct_matched
    {openNames : List (List Char)}
    {text content rest name : List Char}
    (result :
      readConstruct openNames text = .read (.closing name) content rest) :
    openNames.head? = some name := by
  unfold readConstruct at result
  split at result
  · unfold readDeclaration at result
    repeat' split at result
    all_goals simp at result
  · simp at result
  · split at result <;> simp at result
  · unfold readClosing at result
    split at result
    · simp at result
    · dsimp only at result
      split at result
      · simp at result
      · split at result
        · next expected _ same =>
            simp only [Construct.read.injEq, Event.closing.injEq] at result
            rw [List.head?_cons, eq_of_beq same, result.1]
        · simp at result
  · unfold readOpening at result
    split at result
    · simp at result
    · split at result <;> simp at result

/-- Whatever is not a closing tag needs no match. -/
theorem Leads.characters
    {names final : List (List Char)}
    {raw : List Char}
    {events : List Event}
    (rest : Leads names events final) :
    Leads names (.characters raw :: events) final :=
  .cons nofun rest

/-- What the reader delivers next is matched. -/
theorem Leads.read
    {names final : List (List Char)}
    {text content behind : List Char}
    {event : Event}
    {events : List Event}
    (result : readConstruct names text = .read event content behind)
    (rest : Leads (openAfter names event) events final) :
    Leads names (event :: events) final := by
  refine .cons ?_ rest
  rintro name rfl
  exact readConstruct_matched result

/-- What is read onto some events is matched from the open tags on. -/
theorem scanOnto_leads
    (readSoFar : List Located)
    (openNames : List (List Char))
    (offset : Nat)
    (text : List Char) :
    ∃ further final,
      (scanOnto readSoFar openNames offset text).events =
          readSoFar.reverse ++ further ∧
        Leads openNames (further.map (·.event)) final := by
  fun_induction scanOnto readSoFar openNames offset text with
  | case1 | case2 => exact ⟨[], _, (List.append_nil _).symm, .nil⟩
  | case3 =>
      rename_i result inductionHypothesis
      obtain ⟨further, final, events, leads⟩ := inductionHypothesis
      rw [List.reverse_cons, List.append_assoc] at events
      exact ⟨_, final, events, .read result leads⟩
  | case4 | case5 => exact ⟨[_], _, List.reverse_cons, .characters .nil⟩
  | case6 =>
      rename_i result inductionHypothesis
      obtain ⟨further, final, events, leads⟩ := inductionHypothesis
      rw [List.reverse_cons, List.reverse_cons, List.append_assoc,
        List.append_assoc] at events
      exact ⟨_, final, events, .characters (.read result leads)⟩

/-- The events of a document. -/
def Scan.eventList (scan : Scan) : List Event :=
  scan.events.map (·.event)

/-- What is read of a document is matched. -/
theorem scan_leads (document : List Char) :
    ∃ final, Leads [] (scan document).eventList final := by
  have read (text : List Char) :
      ∃ final, Leads [] (scanOnto [] [] 0 text).eventList final := by
    obtain ⟨further, final, events, leads⟩ := scanOnto_leads [] [] 0 text
    refine ⟨final, ?_⟩
    rw [Scan.eventList, events]
    exact leads
  unfold scan
  split <;> exact read _

/-! ## Closed tags denote elements -/

/-- Events denote the rest of the innermost level, then close its tag and
denote the rest of the next level, and so on for all open tags. -/
inductive DenotesRest : List (List Char) -> List Event -> Prop
  | outermost {events : List Event} {nodes : List Node}
      (denotes : Denotes events nodes) :
      DenotesRest [] events
  | enclosed
      {name : List Char}
      {names : List (List Char)}
      {inside events : List Event}
      {content : List Node}
      (denotes : Denotes inside content)
      (rest : DenotesRest names events) :
      DenotesRest (name :: names) (inside ++ .closing name :: events)

/-- Events in front of the rest of a level belong to this level. -/
theorem DenotesRest.prepend
    {names : List (List Char)}
    {events : List Event}
    (rest : DenotesRest names events)
    {front : List Event}
    (extend : ∀ {inside content},
      Denotes inside content -> ∃ nodes, Denotes (front ++ inside) nodes) :
    DenotesRest names (front ++ events) := by
  cases rest with
  | outermost denotes =>
      obtain ⟨nodes, extended⟩ := extend denotes
      exact .outermost extended
  | enclosed denotes rest =>
      obtain ⟨nodes, extended⟩ := extend denotes
      rw [← List.append_assoc]
      exact .enclosed extended rest

theorem DenotesRest.cons
    {names : List (List Char)}
    {event : Event}
    {events : List Event}
    (rest : DenotesRest names events)
    (extend : ∀ {inside content},
      Denotes inside content -> ∃ nodes, Denotes (event :: inside) nodes) :
    DenotesRest names (event :: events) :=
  @DenotesRest.prepend names events rest [event] extend

/-- Matched events that leave no tag open denote the rest of every level. -/
theorem Leads.denotesRest
    {names : List (List Char)}
    {events : List Event}
    (leads : Leads names events []) :
    DenotesRest names events := by
  induction events generalizing names with
  | nil =>
      cases leads
      exact .outermost .nil
  | cons event events inductionHypothesis =>
      obtain _ | ⟨matched, leads⟩ := leads
      have rest := inductionHypothesis leads
      cases event with
      | opening tag =>
          obtain _ | @⟨_, _, inside, behind, inner, enclosed, rest⟩ := rest
          have split :
              Event.opening tag :: (inside ++ .closing tag.name :: behind) =
                (.opening tag :: inside ++ [.closing tag.name]) ++ behind := by
            simp
          rw [split]
          refine rest.prepend fun {_ content} denotes =>
            ⟨.element tag inner :: content, ?_⟩
          rw [List.append_assoc]
          exact .element enclosed denotes
      | closing name =>
          have head := matched name rfl
          cases names with
          | nil => exact nomatch head
          | cons other names =>
              cases head
              exact .enclosed .nil rest
      | selfClosing tag =>
          exact rest.cons fun denotes => ⟨_, .selfClosing denotes⟩
      | characters raw =>
          exact rest.cons fun denotes => ⟨_, .characters denotes⟩
      | literal text => exact rest.cons fun denotes => ⟨_, .literal denotes⟩
      | doctype => exact rest.cons fun denotes => ⟨_, .doctype denotes⟩
      | ignored => exact rest.cons fun denotes => ⟨_, .ignored denotes⟩

/-- Matched events whose tags are all closed denote nodes. -/
theorem Leads.exists_denotes
    {events : List Event}
    (leads : Leads [] events []) :
    ∃ nodes, Denotes events nodes := by
  obtain ⟨denotes⟩ := leads.denotesRest
  exact ⟨_, denotes⟩

end Markup
end FieldOcr
