import Mathlib

/-!
# Histories

A history is a list, newest first, in which every entry extends the entries before it. What an
entry keeps of the last one of its key it keeps of all of that key, when what it keeps is
transitive (`History.pairwise_keyed`) ; with one key for all, it is the last entry that counts.
-/

namespace Histories

variable {α κ : Type} {step : List α → α → Prop}

/-- Every entry extends the history before it. -/
inductive History (step : List α → α → Prop) : List α → Prop
  | nil : History step []
  | extend {history : List α} {next : α} : History step history → step history next →
      History step (next :: history)

namespace History

/-- The history before an entry. -/
theorem past {history : List α} {next : α} (h : History step (next :: history)) :
    History step history := by
  cases h with
  | extend hhistory _ => exact hhistory

/-- How the newest entry extends the history before it. -/
theorem last {history : List α} {next : α} (h : History step (next :: history)) :
    step history next := by
  cases h with
  | extend _ hstep => exact hstep

/-- A history is one of every weaker step. -/
theorem mono {step' : List α → α → Prop} {l : List α} (h : History step l)
    (himp : ∀ history next, step history next → step' history next) : History step' l := by
  induction h with
  | nil => exact nil
  | extend _ hstep ih => exact extend ih (himp _ _ hstep)

end History

variable [DecidableEq κ]

/-- An entry that is related to the last one of its key is related to all of that key. -/
theorem related_of_last (key : α → κ) (R : α → α → Prop)
    (htrans : ∀ a b c, R a b → R b c → R a c) {history : List α} {next : α}
    (hhistory : history.Pairwise fun later earlier => key later = key earlier → R later earlier)
    (hlast : ∀ last ∈ history.find? (fun a => key a = key next), R next last) {earlier : α}
    (hearlier : earlier ∈ history) (hkey : key next = key earlier) : R next earlier := by
  obtain ⟨last, hfind⟩ : ∃ last, history.find? (fun a => key a = key next) = some last :=
    Option.isSome_iff_exists.mp (List.find?_isSome.mpr ⟨earlier, hearlier, by simp [hkey]⟩)
  have hnext : R next last := hlast last hfind
  obtain ⟨hlastKey, newer, older, rfl, hnewer⟩ := List.find?_eq_some_iff_append.mp hfind
  simp only [decide_eq_true_eq, Bool.not_eq_true', decide_eq_false_iff_not] at hlastKey hnewer
  rcases List.mem_append.mp hearlier with hmem | hmem
  · exact absurd hkey.symm (hnewer earlier hmem)
  · rcases List.mem_cons.mp hmem with rfl | hmem
    · exact hnext
    · have hpair := (List.pairwise_append.mp hhistory).2.1
      exact htrans _ _ _ hnext ((List.pairwise_cons.mp hpair).1 earlier hmem (hlastKey.trans hkey))

/-- A transitive relation that every entry has to the last one of its key holds of all entries of
one key. -/
theorem History.pairwise_keyed (key : α → κ) (R : α → α → Prop)
    (htrans : ∀ a b c, R a b → R b c → R a c)
    (hstep : ∀ history next, step history next →
      ∀ last ∈ history.find? (fun a => key a = key next), R next last) {l : List α}
    (h : History step l) :
    l.Pairwise fun later earlier => key later = key earlier → R later earlier := by
  induction h with
  | nil => exact List.Pairwise.nil
  | extend _ hnext ih =>
    refine List.pairwise_cons.mpr ⟨fun earlier hearlier hkey => ?_, ih⟩
    exact related_of_last key R htrans ih (hstep _ _ hnext) hearlier hkey

/-- A transitive relation that every entry has to the last one holds of all entries. -/
theorem History.pairwise (R : α → α → Prop) (htrans : ∀ a b c, R a b → R b c → R a c)
    (hstep : ∀ history next, step history next → ∀ last ∈ history.head?, R next last) {l : List α}
    (h : History step l) : l.Pairwise R := by
  have hkeyed := h.pairwise_keyed (fun _ => ()) R htrans fun history next hnext last hlast => by
    have hhead : last ∈ history.head? := by
      cases history with
      | nil => simp at hlast
      | cons newest older => simpa using hlast
    exact hstep history next hnext last hhead
  exact hkeyed.imp fun h => h rfl

end Histories
