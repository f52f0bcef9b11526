import CatalogSchema.Introspection
import CatalogSchema.Proofs.Catalog.RoundTrip
import CatalogSchema.Proofs.Schema.Resemblance

/-!
# Snapshots in answers

An answer that was written from a snapshot is read as that snapshot, whatever its layout
(`Snapshot.ofAnswer_render`). The small catalog gives two such answers, one from before a change and one
from after it, with different schemas.
-/

namespace CatalogSchema

namespace Snapshot

theorem ofAnswer_render {s : Snapshot} (hfits : Json.Fits Json.maxDepth s.encode)
    (hrows : (decodeRows s.encode).toOption = some s.rows) (layout : Json.Layout) :
    ofAnswer (some (s.encode.render layout)) = .ok s := by
  have hne : s.encode.render layout ≠ "" := by
    obtain ⟨c, cs, hc, -⟩ := hfits.exists_head layout 0
    rw [Json.render, hc]
    simp
  have htext : parse (s.encode.render layout) = .ok s :=
    parse_eq_ok_iff.2 ⟨_, Json.parse_render_self layout hfits, Checked.toOption_eq_some_iff.1 hrows⟩
  have hanswer : (some (s.encode.render layout)).filter (· ≠ "") = some (s.encode.render layout) :=
    Option.filter_eq_some_iff.2 ⟨rfl, by simpa using hne⟩
  rw [ofAnswer, hanswer]
  simp only [htext, Checked.orFault]

/-- The small catalog before a column was added to one of its tables. -/
def earlierSample : Snapshot :=
  let rows : CatalogRows := { CatalogRows.sample with attributes := CatalogRows.sample.attributes.eraseIdx 1 }
  ⟨rows, 1259, .ofRows rows, by decide, rfl⟩

theorem ofAnswer_sample : ofAnswer (some (sample.encode.render .compact)) = .ok sample :=
  ofAnswer_render (by decide +kernel) (by decide +kernel) .compact

theorem ofAnswer_earlierSample :
    ofAnswer (some (earlierSample.encode.render .compact)) = .ok earlierSample :=
  ofAnswer_render (by decide +kernel) (by decide +kernel) .compact

theorem buildSchema_earlierSample_ne : buildSchema earlierSample .default ≠ buildSchema sample .default := by
  decide +kernel

end Snapshot

end CatalogSchema
