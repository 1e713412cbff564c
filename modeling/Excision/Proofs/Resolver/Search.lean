import Excision.Resolver.Basic
import Mathlib.Order.Bounds.Basic
import Mathlib.Order.Nat

/-!
# Searches

The searches of a resolver run over the lines of a document and stop at the first line that
will do.  `IsSearchOf found? candidates` says that a search finds the least of its
candidates, and nothing only if there is none.  The marker search is such a search
(`findMarker?_isSearchOf`), and so is the one for the first exact closing line
(`firstExact?_isSearchOf`).
-/

namespace Excision

/-- Line `index` of `lines` exists and has the property `p`. -/
def Line.At (p : Line → Prop) (lines : List Line) (index : Nat) : Prop :=
  ∃ line ∈ lines[index]?, p line

instance (p : Line → Prop) [DecidablePred p] (lines : List Line) (index : Nat) :
    Decidable (Line.At p lines index) :=
  inferInstanceAs (Decidable (∃ line ∈ lines[index]?, p line))

theorem Line.At.lt_length {p : Line → Prop} {lines : List Line} {index : Nat}
    (h : Line.At p lines index) :
  index < lines.length
  := by
  obtain ⟨line, hline, -⟩ := h
  apply (List.getElem?_eq_some_iff.mp hline).1

/-- In a list cut off before line `boundary`, the lines before it stand as they were. -/
theorem Line.at_take_iff {p : Line → Prop} {lines : List Line} {boundary index : Nat} :
  Line.At p (lines.take boundary) index ↔ index < boundary ∧ Line.At p lines index
  := by
  unfold Line.At
  rw [List.getElem?_take]
  split
  next h => simp [h]
  next h => simp [h]

/-- Behind some lines and others without the property, a line that has it is the first. -/
theorem Line.isLeast_at_append {p : Line → Prop} (before : List Line) {front : List Line}
    {line : Line} (hfront : ∀ other ∈ front, ¬ p other) (hline : p line)
    (rest : List Line) :
  IsLeast {i | before.length ≤ i ∧ Line.At p (before ++ (front ++ line :: rest)) i}
    (before.length + front.length)
  := by
  constructor
  · exact ⟨by omega, line, by simp, hline⟩
  · rintro i ⟨hbefore, other, hother, hp⟩
    by_contra hlt
    have hfrontier : i - before.length < front.length := by omega
    rw [Option.mem_def, List.getElem?_append_right hbefore,
      List.getElem?_append_left hfrontier] at hother
    apply hfront other (List.mem_of_getElem? hother) hp

namespace Resolver

/-- The result of a search is the least of the candidates, and nothing if there is no
candidate. -/
def IsSearchOf (found? : Option Nat) (candidates : Set Nat) : Prop :=
  ∀ index, found? = some index ↔ IsLeast candidates index

theorem IsSearchOf.some_iff {found? : Option Nat} {candidates : Set Nat}
    (h : IsSearchOf found? candidates) {index : Nat} :
  found? = some index ↔ IsLeast candidates index
  := h index

/-- Two searches among the same candidates have the same result. -/
theorem IsSearchOf.unique {found? other? : Option Nat} {candidates : Set Nat}
    (h : IsSearchOf found? candidates) (h' : IsSearchOf other? candidates) :
  found? = other?
  := by
  apply Option.ext
  intro index
  rw [h.some_iff, h'.some_iff]

theorem isSearchOf_some {candidates : Set Nat} {index : Nat} (h : IsLeast candidates index) :
  IsSearchOf (some index) candidates
  := by
  intro other
  constructor
  · rintro ⟨⟩
    apply h
  · intro hother
    rw [h.unique hother]

theorem isSearchOf_none {candidates : Set Nat} (h : ∀ index, index ∉ candidates) :
  IsSearchOf none candidates
  := by
  intro index
  constructor
  · rintro ⟨⟩
  · intro hindex
    apply absurd hindex.1 (h index)

theorem IsSearchOf.congr {found? : Option Nat} {candidates others : Set Nat}
    (h : IsSearchOf found? candidates) (hmem : ∀ index, index ∈ candidates ↔ index ∈ others) :
  IsSearchOf found? others
  := by
  rwa [← Set.ext hmem]

/-- A search that finds nothing has no candidate. -/
theorem IsSearchOf.none_iff {found? : Option Nat} {candidates : Set Nat}
    (h : IsSearchOf found? candidates) :
  found? = none ↔ ∀ index, index ∉ candidates
  := by
  classical
  constructor
  · rintro rfl index hindex
    have hleast := Set.Nonempty.isLeast_natFind ⟨index, hindex⟩
    simpa using h.some_iff.mpr hleast
  · intro hempty
    rw [Option.eq_none_iff_forall_ne_some]
    intro index hfound
    apply hempty index
    apply (h.some_iff.mp hfound).1

/-- Looking through the lines from line `start` on finds the first that passes the test. -/
theorem findIdx?_drop_isSearchOf (test : Line → Bool) (lines : List Line) (start : Nat) :
  IsSearchOf (((lines.drop start).findIdx? test).map (· + start))
    {i | start ≤ i ∧ Line.At (test · = true) lines i}
  := by
  intro index
  simp only [Option.map_eq_some_iff, List.findIdx?_eq_some_iff_getElem, List.getElem_drop,
    List.length_drop]
  constructor
  · rintro ⟨offset, ⟨hoffset, htest, hfirst⟩, rfl⟩
    constructor
    · refine ⟨by omega, lines[start + offset], ?_, htest⟩
      rw [Nat.add_comm offset start]
      apply List.getElem?_eq_getElem
    · rintro other ⟨hstart, line, hline, hother⟩
      obtain ⟨hlength, rfl⟩ := List.getElem?_eq_some_iff.mp hline
      by_contra hlt
      apply hfirst (other - start) (by omega)
      simpa [Nat.add_sub_cancel' hstart] using hother
  · rintro ⟨⟨hstart, line, hline, htest⟩, hleast⟩
    obtain ⟨hlength, rfl⟩ := List.getElem?_eq_some_iff.mp hline
    refine ⟨index - start, ⟨by omega, ?_, ?_⟩, by omega⟩
    · simpa [Nat.add_sub_cancel' hstart] using htest
    · intro offset hoffset hother
      have hle : index ≤ start + offset :=
        hleast ⟨by omega, lines[start + offset], List.getElem?_eq_getElem _, hother⟩
      omega

/-- The marker search finds the first line from line `start` on that holds the marker. -/
theorem findMarker?_isSearchOf (lines : List Line) (start : Nat) (marker : Text) :
  IsSearchOf (findMarker? lines start marker)
    {i | start ≤ i ∧ Line.At (marker <:+: ·) lines i}
  := by
  have h := findIdx?_drop_isSearchOf (Text.holds marker) lines start
  simp only [Text.holds_iff] at h
  apply h

/-- The first exact closing line is the first one between the start line and the boundary
line with the content of the closing line. -/
theorem firstExact?_isSearchOf (resolver : Resolver) (lines : List Line)
    (start boundary : Nat) :
  IsSearchOf (resolver.firstExact? lines start boundary)
    {i | start < i ∧ i < boundary ∧ Line.At (·.content = resolver.closingLine) lines i}
  := by
  have h := findIdx?_drop_isSearchOf (fun line => line.content == resolver.closingLine)
    (lines.take boundary) (start + 1)
  simp only [beq_iff_eq, Line.at_take_iff] at h
  apply h

end Resolver

end Excision
