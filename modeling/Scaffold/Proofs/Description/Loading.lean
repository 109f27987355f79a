import Scaffold.Document
import Scaffold.Proofs.Files.Content
import Scaffold.Proofs.Json.RoundTrip

/-! Components from files.  What a component is loaded from is the text at one path, so that it is
loaded again from a text that was written, and over changes at other places. -/
namespace Scaffold

open FileTree Model

variable {disk disk' : FileTree} {own own' : Ownership} {c : Component} {path : FilePath}
  {v : Value}

/-- A component is not loaded, and nothing else happens, or it is made of some data. -/
theorem loadComponent_cases (own : Ownership) (disk : FileTree) (path : FilePath) :
    (∃ e, loadComponent own disk path = (.error e, own)) ∨
      ∃ data, loadComponent own disk path =
        ((componentOf own data path.text).1.mapError .undescribed,
          (componentOf own data path.text).2) := by
  rw [loadComponent]
  cases disk.readText path with
  | error e => exact .inl ⟨_, rfl⟩
  | ok text =>
    dsimp only
    cases readDocument path text with
    | error e => exact .inl ⟨_, rfl⟩
    | ok data => exact .inr ⟨data, rfl⟩

/-- A description that was written is read again. -/
theorem readDocument_write (hsuffix : path.suffix = ".json")
    (hfits : Json.fits Json.descriptions.depth v = true) :
    readDocument path (Json.write Json.indented v) = .ok v.settled := by
  have hread : Json.read Json.descriptions (Json.write Json.indented v) = .ok v :=
    Json.read_write Json.isSpaced_indented hfits
  rw [readDocument, if_pos hsuffix, hread]
  rfl

/-- A component is loaded from the file that its description was written to. -/
theorem loadComponent_of_readBytes (hsuffix : path.suffix = ".json")
    (hfits : Json.fits Json.descriptions.depth v = true)
    (hbytes : disk.readBytes path = .ok (Json.write Json.indented v).toUTF8)
    (hcomponent : componentOf own v.settled path.text = (.ok c, own')) :
    loadComponent own disk path = (.ok c, own') := by
  have htext : disk.readText path = .ok (Json.write Json.indented v) :=
    readText_eq_ok_iff.mpr ⟨_, hbytes, decode_toUTF8 (Json.return_notMem_writeAt v 0 hfits)⟩
  rw [loadComponent, htext]
  dsimp only
  rw [readDocument_write hsuffix hfits]
  dsimp only
  rw [hcomponent]
  rfl

/-- A component that was loaded is loaded again, if its description was left alone. -/
theorem loadComponent_of_changesWithin {places : List Place} (hc : disk.ChangesWithin disk' places)
    (hp : path.denoted disk.here ∉ places) (h : loadComponent own disk path = (.ok c, own')) :
    disk'.hasEntry path = .ok true ∧ loadComponent own disk' path = (.ok c, own') := by
  cases htext : disk.readText path with
  | error e =>
    rw [loadComponent, htext] at h
    cases h
  | ok text =>
    obtain ⟨content, hr, hdecode⟩ := readText_eq_ok_iff.mp htext
    have hr' := hc.readBytes hp hr
    have htext' : disk'.readText path = .ok text := readText_eq_ok_iff.mpr ⟨content, hr', hdecode⟩
    constructor
    · exact hasEntry_of_readBytes hr'
    · rw [loadComponent, htext] at h
      rw [loadComponent, htext']
      exact h

end Scaffold
