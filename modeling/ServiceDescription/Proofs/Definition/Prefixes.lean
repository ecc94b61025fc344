import ServiceDescription.Proofs.Definition.Alike
import ServiceDescription.Proofs.Xml.Renaming

/-! A description depends on prefixes only through what they are bound to. Trees that say the same
are read to the same description, the table of namespaces aside, which lists the declarations of the
root as they are. -/
namespace ServiceDescription.Definition
open Xml Schema Schema.Catalog Contract Lookup

theorem readAlike_of_alike {root root' : Located} (h : root.Alike root') : ReadAlike root root' :=
  (like_of_rel h).readAlike

/-- Trees that say the same are read alike. So are a tree and the same tree with its declarations
moved and its prefixes changed, as long as the prefixes of references are bound to what they were
bound to; for a renaming throughout this holds as soon as no two prefixes fall together. -/
theorem read_prefixIndependent :
    (∀ root root' : Located, root.Alike root' → ReadAlike root root') ∧
    (∀ (f : Renaming) (root root' : Located), root.Rewritten f root' → ReadAlike root root') ∧
    ∀ f : Renaming, f.map.Injective → f.map "xml" = "xml" →
      ∀ root : Located, ReadAlike root (root.renamed f) := by
  refine ⟨fun _ _ h => readAlike_of_alike h, fun _ _ _ h => readAlike_of_alike h.alike, ?_⟩
  exact fun f hf hxml root => readAlike_of_alike (Located.rewritten_renamed hf hxml root).alike

/-- A message with one part, for which the root and the part itself declare prefixes. -/
def rowMessage (outer own : Scope) (element : String) : Located := .root <| .element
  { name := ⟨"", "definitions"⟩, declarations := outer, attributes := [] }
  [.plain "message" [("name", "In")] [.element
    { name := ⟨"", "part"⟩
      declarations := own
      attributes := [{ name := ⟨"", "element"⟩, value := element }] }
    []]]

def exchanged : Renaming where
  map pre := if pre = "p" then "q" else if pre = "q" then "p" else pre
  colon_notMem pre h := by
    split
    · decide
    · split
      · decide
      · exact h
  head_notBlank pre h c hc := by
    split at hc
    · obtain rfl : 'q' = c := by simpa using hc
      decide
    · split at hc
      · obtain rfl : 'p' = c := by simpa using hc
        decide
      · exact h c hc

/-- The reference to `urn:x` is written with another prefix that the part declares itself, then with
the declaration moved down to the part, then with both prefixes exchanged throughout. -/
theorem read_prefixIndependent_rowMessage :
    ReadAlike (rowMessage [("p", "urn:x")] [] "p:Row")
        (rowMessage [("p", "urn:y")] [("q", "urn:x")] "q:Row") ∧
      ReadAlike (rowMessage [("p", "urn:x")] [] "p:Row")
        (rowMessage [("p", "urn:y")] [("p", "urn:x")] "p:Row") ∧
      ReadAlike (rowMessage [("p", "urn:x"), ("q", "urn:y")] [] "p:Row")
        ((rowMessage [("p", "urn:x"), ("q", "urn:y")] [] "p:Row").renamed exchanged) := by
  obtain ⟨halike, hrewritten, hrenamed⟩ := read_prefixIndependent
  refine ⟨halike _ _ ?_, hrewritten .refl _ _ ?_, hrenamed exchanged ?_ (by decide) _⟩
  · refine .element (Tag.alike_of_attributes rfl .nil) (.cons (.element
      (Tag.alike_of_attributes rfl ?_) (.cons (.element (Tag.alike_of_attributes rfl ?_) .nil)
        .nil)) .nil)
    · exact .cons ⟨rfl, fun _ => rfl, fun h => absurd h (by decide)⟩ .nil
    · refine .cons ⟨rfl, fun h => absurd (by decide) h, fun _ => ?_⟩ .nil
      exact QualifiedName.same_of_renamed (f := exchanged) (by decide +kernel) (by decide +kernel)
  · exact .element (Tag.rewritten_redeclared _ (by decide +kernel)) (.cons (.element
      (Tag.rewritten_redeclared _ (by decide +kernel)) (.cons (.element
        (Tag.rewritten_redeclared _ (by decide +kernel)) .nil) .nil)) .nil)
  · intro pre pre' h
    simp only [exchanged] at h
    grind

end ServiceDescription.Definition
