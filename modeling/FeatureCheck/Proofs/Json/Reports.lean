import FeatureCheck.Proofs.Json.Printed
import FeatureCheck.Proofs.Json.Records
import FeatureCheck.Proofs.Text.Utf8
import FeatureCheck.Report

/-!
# Reports as JSON

A report is printed as a JSON text, whatever its texts hold, and every text that says what the
report says is read as this report: `decode_renderJson`.
-/

namespace FeatureCheck

set_option autoImplicit false

open Json Json.Decoder

/-! ## Records of a report -/

theorem RuntimeIdentity.decode_toJson (identity : RuntimeIdentity) :
    RuntimeIdentity.decoder (asRead identity.toJson) = .ok identity := by
  have hkind := variant_asRead (RuntimeKind.ofWord?_word identity.kind)
  have hversion := text_asRead identity.version
  exact record_of_filled (by decide) (.cons (fill_of hkind) (.cons (fill_of hversion) .nil))

theorem Finding.decode_toJson (finding : Finding) :
    Finding.decoder (asRead finding.toJson) = .ok finding := by
  have hkind := variant_asRead (FindingKind.ofWord?_word finding.kind)
  have hsubject := text_asRead finding.subject
  have hrelated := list_text_asRead finding.related
  exact record_of_filled (by decide)
    (.cons (fill_of hkind) (.cons (fill_of hsubject) (.cons (fill_of hrelated) .nil)))

namespace Report

theorem decode_findings (findings : List Finding) :
    list Finding.decoder (asRead (.array (findings.map Finding.toJson))) = .ok findings := by
  refine list_asRead (List.forall₂_map_left_iff.mpr ?_)
  exact List.forall₂_same.mpr fun finding _ => finding.decode_toJson

theorem decode_toJson (report : Report) : decoder (asRead report.toJson) = .ok report := by
  have hidentity := report.identity.decode_toJson
  have hsource := variant_asRead (CatalogSource.ofWord?_word report.source)
  have hfindings := decode_findings report.findings
  exact record_of_filled (by decide)
    (.cons (fill_of hidentity) (.cons (fill_of hsource) (.cons (fill_of hfindings) .nil)))

end Report

/-! ## The text -/

theorem Finding.numbers_toJson (finding : Finding) : numbers finding.toJson = [] := by
  simp only [toJson, numbers, numbersOfMembers, numbers_texts, List.append_nil]

namespace Report

theorem numbers_toJson (report : Report) : numbers report.toJson = [] := by
  have hfindings : numbersOfItems (report.findings.map Finding.toJson) = [] := by
    refine numbersOfItems_eq_nil fun item hitem => ?_
    obtain ⟨finding, -, rfl⟩ := List.mem_map.mp hitem
    exact finding.numbers_toJson
  simp only [toJson, RuntimeIdentity.toJson, numbers, numbersOfMembers, hfindings, List.append_nil]

theorem isText_renderJson (report : Report) : IsText report.toJson report.renderJson.toList := by
  rw [renderJson, pretty, String.toList_ofList]
  refine isText_print (some 0) report.toJson ?_
  rw [numbers_toJson]
  exact List.forall_mem_nil _

/-- What is printed for a report is a JSON text of it, and is read as the same report. -/
theorem decode_renderJson (report : Report) :
    IsText report.toJson report.renderJson.toList ∧
    decode decoder (Text.glyphs (Text.bytesOf report.renderJson)) = .ok report := by
  refine ⟨report.isText_renderJson, ?_⟩
  rw [Text.glyphs_bytesOf, decode_of_isText report.isText_renderJson]
  exact report.decode_toJson

/-- A quote, a backslash and a control character are escaped; what is empty stands on one line. -/
example : (⟨⟨.ol, "\"\x01"⟩, .empty, [⟨.featureNotFound, "\\é", []⟩]⟩ : Report).renderJson =
    "\x7b
  \"identity\": \x7b
    \"kind\": \"ol\",
    \"version\": \"\\\"\\u0001\"
  \x7d,
  \"source\": \"empty\",
  \"findings\": [
    \x7b
      \"kind\": \"FeatureNotFound\",
      \"subject\": \"\\\\é\",
      \"related\": []
    \x7d
  ]
\x7d" := by
  decide +kernel

end Report

end FeatureCheck
