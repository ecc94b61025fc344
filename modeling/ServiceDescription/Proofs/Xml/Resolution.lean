import ServiceDescription.Proofs.Xml.Arrangement
import ServiceDescription.Proofs.Xml.Renaming

/-! Qualified names written and resolved again. A name written with a prefix is resolved to just this
name, in the namespace that the table of the node has for the prefix, whatever blanks stand around
it; every text is such a name or one without a prefix. The table and the search of a prefix are two
views of the declarations around a node, and they say the same. -/
namespace ServiceDescription

namespace Xml

/-- The table of the bindings that count has a prefix with the namespace that is found for it. -/
lemma Scope.mem_visible_iff {scope : Scope} {pre uri : String} :
    (pre, uri) ∈ scope.visible ↔ scope.namespace? pre = some uri := by
  induction scope with
  | nil => simp [visible, namespace?]
  | cons d outer ih =>
    obtain ⟨p, u⟩ := d
    rw [visible, namespace?_cons, List.mem_cons, List.mem_filter, ih]
    by_cases h : pre = p <;> simp [h, eq_comm]

namespace QualifiedName

/-- A prefix and a name as they stand together in a reference. -/
def written (pre name : String) : String := pre ++ ":" ++ name

/-- The prefix has no colon and does not begin with a blank, and the name does not end with one. The
name may have colons, and either may be empty. -/
structure Writable (pre name : String) : Prop where
  colon : ':' ∉ pre.toList
  head : ∀ c ∈ pre.toList.head?, Text.isBlank c = false
  last : ∀ c ∈ name.toList.getLast?, Text.isBlank c = false

instance (pre name : String) : Decidable (Writable pre name) :=
  haveI (c? : Option Char) : Decidable (∀ c ∈ c?, Text.isBlank c = false) :=
    Option.decidableForallMem c?
  decidable_of_iff (':' ∉ pre.toList ∧ (∀ c ∈ pre.toList.head?, Text.isBlank c = false) ∧
    ∀ c ∈ name.toList.getLast?, Text.isBlank c = false)
    ⟨fun h => ⟨h.1, h.2.1, h.2.2⟩, fun h => ⟨h.colon, h.head, h.last⟩⟩

variable {pre name before after : String}

lemma Writable.tight (h : Writable pre name) : Text.Tight (pre.toList ++ ':' :: name.toList) := by
  constructor
  · intro c hc
    rw [List.head?_append] at hc
    cases hp : pre.toList.head? with
    | none =>
      rw [hp] at hc
      obtain rfl := Option.some.inj hc
      decide
    | some d =>
      rw [hp] at hc
      obtain rfl := Option.some.inj hc
      exact h.head _ hp
  · intro c hc
    rw [List.getLast?_append, List.getLast?_cons] at hc
    cases hn : name.toList.getLast? with
    | none =>
      rw [hn] at hc
      obtain rfl := Option.some.inj hc
      decide
    | some d =>
      rw [hn] at hc
      obtain rfl := Option.some.inj hc
      exact h.last _ hn

lemma trimChars_written (h : Writable pre name) (hbefore : Text.Blank before)
    (hafter : Text.Blank after) :
    Text.trimChars (before ++ written pre name ++ after).toList =
      pre.toList ++ ':' :: name.toList := by
  have htext : (before ++ written pre name ++ after).toList =
      before.toList ++ (pre.toList ++ ':' :: name.toList) ++ after.toList := by
    simp [written]
  rw [htext, Text.trimChars_padded hbefore hafter, Text.trimChars_of_tight h.tight]

/-- Whatever blanks stand around a written name, it is resolved to the name itself in the namespace
of its prefix. -/
lemma resolve_padded (h : Writable pre name) (hbefore : Text.Blank before)
    (hafter : Text.Blank after) (scope : Scope) (fallback : String) :
    resolve scope fallback (before ++ written pre name ++ after) =
      ⟨namespaceOf scope pre, name⟩ := by
  rw [resolve_of_colon (trimChars_written h hbefore hafter) h.colon, String.ofList_toList,
    String.ofList_toList]

/-- Every text is a name written with a prefix or a name without a colon, in blanks. -/
lemma exists_written (raw : String) :
    ∃ before after, Text.Blank before ∧ Text.Blank after ∧
      ((∃ pre name, Writable pre name ∧ raw = before ++ written pre name ++ after) ∨
        ∃ name, ':' ∉ name.toList ∧ raw = before ++ name ++ after) := by
  obtain ⟨a, b, ha, hb, hraw⟩ := Text.exists_padding raw.toList
  have htext : ∀ t : String, t.toList = Text.trimChars raw.toList →
      raw = String.ofList a ++ t ++ String.ofList b := by
    intro t ht
    rw [← ht] at hraw
    rw [← String.toList_inj, hraw]
    simp
  refine ⟨String.ofList a, String.ofList b, by simpa [Text.Blank] using ha,
    by simpa [Text.Blank] using hb, ?_⟩
  obtain hnone | ⟨p, rest, hp, hs⟩ := cases_colon raw
  · exact .inr ⟨Text.trim raw, by rwa [Text.toList_trim], htext _ (Text.toList_trim raw)⟩
  · refine .inl ⟨String.ofList p, String.ofList rest, ⟨by simpa using hp, ?_, ?_⟩,
      htext _ (by simp [written, hs])⟩
    all_goals
      have htight := Text.tight_trimChars raw.toList
      rw [hs] at htight
      intro c hc
      rw [String.toList_ofList] at hc
    · exact htight.1 c (by rw [List.head?_append, hc]; rfl)
    · exact htight.2 c (by rw [List.getLast?_append, List.getLast?_cons, hc]; rfl)

end QualifiedName

namespace Located
open QualifiedName

/-- Writing a qualified name and resolving it are inverse at every node. What is written with a
prefix gives the name back, in the namespace that the table of the node has for the prefix, and in
none when it has none; the prefix of XML itself means XML whatever is declared. A name without a
colon is trimmed and gets the namespace of the caller. Every text is of one of these two forms. -/
theorem resolve_written (l : Located) (fallback : String) :
    (∀ before pre name after, Text.Blank before → Text.Blank after → Writable pre name →
      (pre ≠ "xml" → ∀ uri, (pre, uri) ∈ l.scope.visible →
        resolve l.scope fallback (before ++ written pre name ++ after) = ⟨uri, name⟩) ∧
      (pre ≠ "xml" → (∀ uri, (pre, uri) ∉ l.scope.visible) →
        resolve l.scope fallback (before ++ written pre name ++ after) = ⟨"", name⟩) ∧
      (pre = "xml" →
        resolve l.scope fallback (before ++ written pre name ++ after) =
          ⟨Vocabulary.xml, name⟩)) ∧
    (∀ before name after, Text.Blank before → Text.Blank after → ':' ∉ name.toList →
      resolve l.scope fallback (before ++ name ++ after) = ⟨fallback, Text.trim name⟩) ∧
    ∀ raw, ∃ before after, Text.Blank before ∧ Text.Blank after ∧
      ((∃ pre name, Writable pre name ∧ raw = before ++ written pre name ++ after) ∨
        ∃ name, ':' ∉ name.toList ∧ raw = before ++ name ++ after) := by
  refine ⟨fun before pre name after hbefore hafter h => ?_,
    fun before name after hbefore hafter h => ?_, exists_written⟩
  · rw [resolve_padded h hbefore hafter, namespaceOf]
    refine ⟨fun hxml uri hbound => ?_, fun hxml hunbound => ?_, fun hxml => by rw [if_pos hxml]⟩
    · rw [if_neg hxml, Scope.mem_visible_iff.mp hbound, Option.getD_some]
    · have hnone : l.scope.namespace? pre = none := by
        rw [Option.eq_none_iff_forall_ne_some]
        exact fun uri huri => hunbound uri (Scope.mem_visible_iff.mpr huri)
      rw [if_neg hxml, hnone, Option.getD_none]
  · have htrim : Text.trimChars (before ++ name ++ after).toList = Text.trimChars name.toList := by
      rw [String.toList_append, String.toList_append, Text.trimChars_padded hbefore hafter]
    have hcolon : ':' ∉ Text.trimChars (before ++ name ++ after).toList := by
      obtain ⟨a, b, -, -, hname⟩ := Text.exists_padding name.toList
      rw [htrim]
      intro hmem
      rw [hname] at h
      exact h (by simp [hmem])
    rw [resolve_of_notMem hcolon, Text.trim, htrim, Text.trim]

/-- A node that redeclares a prefix and the default namespace. -/
def redeclaring : Located :=
  ⟨[0], [("t", "urn:outer"), ("u", "urn:u")], .element
    { name := ⟨"", "part"⟩, declarations := [("", "urn:d"), ("t", "urn:t")], attributes := [] } []⟩

theorem resolve_written_redeclaring :
    Text.Blank "\t " ∧ Text.Blank "\n" ∧
    (Writable "t" " a:b" ∧ ("t", "urn:t") ∈ redeclaring.scope.visible ∧
      resolve redeclaring.scope "urn:f" ("\t " ++ written "t" " a:b" ++ "\n") =
        ⟨"urn:t", " a:b"⟩) ∧
    (Writable "" "" ∧ ("", "urn:d") ∈ redeclaring.scope.visible ∧
      resolve redeclaring.scope "urn:f" ("\t " ++ written "" "" ++ "\n") = ⟨"urn:d", ""⟩) ∧
    (Writable "v" "a" ∧ (∀ uri, ("v", uri) ∉ redeclaring.scope.visible) ∧
      resolve redeclaring.scope "urn:f" ("\t " ++ written "v" "a" ++ "\n") = ⟨"", "a"⟩) ∧
    (Writable "xml" "lang" ∧
      resolve redeclaring.scope "urn:f" ("\t " ++ written "xml" "lang" ++ "\n") =
        ⟨Vocabulary.xml, "lang"⟩) ∧
    (':' ∉ " a ".toList ∧
      resolve redeclaring.scope "urn:f" ("\t " ++ " a " ++ "\n") = ⟨"urn:f", Text.trim " a "⟩) := by
  have hbefore : Text.Blank "\t " := by decide
  have hafter : Text.Blank "\n" := by decide
  obtain ⟨hprefixed, hplain, -⟩ := resolve_written redeclaring "urn:f"
  have ht : Writable "t" " a:b" := by decide
  have hnone : Writable "" "" := by decide
  have hv : Writable "v" "a" := by decide
  have hxml : Writable "xml" "lang" := by decide
  have htable : ("t", "urn:t") ∈ redeclaring.scope.visible := by decide
  have hdefault : ("", "urn:d") ∈ redeclaring.scope.visible := by decide
  have hunbound : ∀ uri, ("v", uri) ∉ redeclaring.scope.visible := by
    intro uri huri
    cases Scope.mem_visible_iff.mp huri
  refine ⟨hbefore, hafter, ⟨ht, htable, ?_⟩, ⟨hnone, hdefault, ?_⟩, ⟨hv, hunbound, ?_⟩, ⟨hxml, ?_⟩,
    by decide, hplain _ _ _ hbefore hafter (by decide)⟩
  · exact (hprefixed _ _ _ _ hbefore hafter ht).1 (by decide) _ htable
  · exact (hprefixed _ _ _ _ hbefore hafter hnone).1 (by decide) _ hdefault
  · exact (hprefixed _ _ _ _ hbefore hafter hv).2.1 (by decide) hunbound
  · exact (hprefixed _ _ _ _ hbefore hafter hxml).2.2 rfl

end Located
end Xml
end ServiceDescription
