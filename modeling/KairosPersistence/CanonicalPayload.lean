import KairosPersistence.Jsonb
import KairosPersistence.Sha256

namespace KairosPersistence

open PythonJson Jsonb

/-- A `jsonb` column. -/
abbrev JsonColumn := Json Numeric

/-- `canonical_payload`: the canonical text of a payload and its content identity. -/
def canonicalPayload (payload : PyJson) : String × String :=
  (dumps payload, Sha256.hexdigest (dumps payload))

/-- `json.loads` of the text of a column. -/
def readColumn (column : JsonColumn) : Option PyJson := loads (jsonbOut column)

/-- `_canonical_outbox_payload`: the fields of the canonical object and its content identity. -/
def canonicalOutboxPayload (payload : JsonColumn) : Option (List (String × PyJson) × String) :=
  match readColumn payload with
  | some (.obj fields) =>
    match loads (dumps (.obj fields)) with
    | some (.obj canonical) => some (canonical, Sha256.hexdigest (dumps (.obj fields)))
    | _ => none
  | _ => none

/-- What is read back of a payload that the column keeps. -/
theorem readColumn_stable {payload : PyJson} {column : JsonColumn} (hcolumn : jsonbIn (dumps payload) = some column)
    (hkeys : payload.UniqueKeys) (hnul : payload.everyString nulFree) (hstable : ∀ n ∈ payload.numbers, Stable n) :
    ∃ reread, readColumn column = some reread ∧ dumps reread = dumps payload := by
  have hreload := reload_eq hnul
  rw [reload, hcolumn, Option.bind_some] at hreload
  exact ⟨_, hreload, (dumps_reloaded_iff hkeys).mpr hstable⟩

end KairosPersistence
