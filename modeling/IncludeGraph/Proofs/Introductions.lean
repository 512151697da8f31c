import IncludeGraph.Proofs.Precedence

/-! Which directive a node comes from. A directive whose child was not known before adds it, and the node keeps the kind
and the parent that it is added with. -/

namespace IncludeGraph.Proofs.Introductions
open Traversal Growth Resolution Turns WorklistInvariant Builds Traces History Precedence

def Introducing (history : List Moment) (nodes : Table String Node) : Prop :=
  ∀ moment ∈ history, ∀ path, moment.child = .file path → path ∉ moment.state.nodes.keys →
    ∃ node, nodes.find? path = some node ∧ node.kind = .header ∧ node.parent = some moment.path

variable {around : Surroundings} {root path other : String} {node new : Node} {gain : Gain} {moment : Moment}
  {history : List Moment} {state before middle after : Traversal}

theorem resolve_introduces {directive : Directive}
    (child : (resolve around state path (Path.dirname path) directive).1 = .file other)
    (unmet : other ∉ state.nodes.keys) :
    (resolve around state path (Path.dirname path) directive).2.nodes.find? other =
      some (Newcomer.node ⟨.header, other⟩ path) := by
  obtain ⟨gain, resolved⟩ := resolve_resolved around state path directive
  have known := resolved.known
  rw [child] at known
  change other ∈ _ at known
  rw [resolved.grows.keys] at known
  rcases List.mem_append.mp known with old | fresh
  · exact absurd old unmet
  · obtain ⟨⟨kind, path⟩, member, rfl⟩ := List.mem_map.mp fresh
    obtain ⟨rfl, -⟩ := resolved.files _ member
    exact resolved.grows.added member

theorem link_introduces {findings : List Finding} (member : moment ∈ momentsIn around path state findings)
    (child : moment.child = .file other) (unmet : other ∉ moment.state.nodes.keys) :
    (link around path state findings).2.nodes.find? other = some (Newcomer.node ⟨.header, other⟩ path) := by
  induction findings generalizing state with
  | nil => cases member
  | cons finding rest ih =>
    cases finding with
    | malformed line text => exact ih member
    | directive directive =>
      rcases List.mem_cons.mp member with rfl | later
      · have added := resolve_introduces child unmet
        have told := Grows.detail path (resolve around state path (Path.dirname path) directive).2 around.options
          (path ++ " -> " ++ (resolve around state path (Path.dirname path) directive).1.text)
        obtain ⟨gain, linked⟩ := link_linked around path rest _
        exact linked.grows.kept (told.kept added)
      · exact ih later

/-- What was known when the turn of a file came is known, as it was, when its directives are linked. -/
private theorem kept_linked {kind : Kind} {findings : List Finding} (found : before.nodes.find? other = some node) :
    (link around path (accompanied around before path kind) findings).2.nodes.find? other = some node := by
  obtain ⟨early, grows, -⟩ := accompanied_grows around before path kind
  obtain ⟨late, linked⟩ := link_linked around path findings (accompanied around before path kind)
  exact linked.grows.kept (grows.kept (by rwa [taken_nodes]))

private theorem introduces_of_turn (turn : Turn around path node new gain before middle after)
    (stepped : step around before = .next after) (member : moment ∈ moments around before)
    (child : moment.child = .file other) (unmet : other ∉ moment.state.nodes.keys) :
    ∃ node, after.nodes.find? other = some node ∧ node.kind = .header ∧ node.parent = some path := by
  rcases turn_moments turn stepped with ⟨-, none, -⟩ | ⟨bytes, children, linked, -, -, same, linking, nodes⟩
  · rw [none] at member
    cases member
  · rw [same] at member
    have added := link_introduces member child unmet
    by_cases own : path = other
    · subst own
      obtain rfl := Option.some.inj ((kept_linked turn.found).symm.trans added)
      exact ⟨new, turn.found_after, turn.kept.1, turn.kept.2.1⟩
    · rw [linking] at added
      exact ⟨_, by rw [nodes, Table.find?_insert_of_ne own, added], rfl, rfl⟩

theorem introducing_of_trace (trace : Trace (moments around) around (start around.index root) history state) :
    Introducing history state.nodes := by
  induction trace with
  | none => exact fun _ member => nomatch member
  | @more items before after early stepped ih =>
    obtain ⟨path, node, new, gain, middle, turn⟩ := turn_of_runs early.runs stepped
    intro moment member other child unmet
    rcases List.mem_append.mp member with old | recent
    · obtain ⟨node, found, kind, parent⟩ := ih moment old other child unmet
      obtain ⟨later, there, sameKind, sameParent, -⟩ := turn.follows.nodes other node found
      exact ⟨later, there, sameKind.trans kind, sameParent.trans parent⟩
    · rw [moments_path turn recent]
      exact introduces_of_turn turn stepped recent child unmet

end IncludeGraph.Proofs.Introductions
