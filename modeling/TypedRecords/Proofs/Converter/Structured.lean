import TypedRecords.Catalogue.Conversions
import TypedRecords.Proofs.Json.Lossless

namespace TypedRecords

/-- The conversion has a text for every value. The value is read from it, whatever white space
stands around it, and no other value has it. -/
structure Conversion.KeepsAsText {T : Type} (c : Conversion T String) : Prop where
  written : ∀ t, ∃ s, c.toModel (some t) = .ok (some s)
  read : ∀ t s before after, c.toModel (some t) = .ok (some s) → Json.Blank before.toList →
    Json.Blank after.toList → c.fromModel (some (before ++ s ++ after)) = .ok (some t)
  distinct : ∀ t t' s, c.toModel (some t) = .ok (some s) → c.toModel (some t') = .ok (some s) →
    t = t'

theorem Codec.Lossless.keepsAsText {T : Type} {c : Codec T} (h : c.Lossless) :
    c.conversion.KeepsAsText := by
  have hread (t : T) (s before after : String) (hs : c.conversion.toModel (some t) = .ok (some s))
      (hbefore : Json.Blank before.toList) (hafter : Json.Blank after.toList) :
      c.conversion.fromModel (some (before ++ s ++ after)) = .ok (some t) := by
    cases hs
    simp only [conversion, Conversion.ofFunctions, h.ofText?_between t hbefore hafter]
    rfl
  refine ⟨fun t => ⟨c.toText t, rfl⟩, hread, fun t t' s ht ht' => ?_⟩
  have hblank : Json.Blank "".toList := fun _ hc => absurd hc List.not_mem_nil
  have hback := hread t s "" "" ht hblank hblank
  rw [hread t' s "" "" ht' hblank hblank] at hback
  cases hback
  rfl

namespace Catalogue

theorem lossless_pointCodec : pointCodec.Lossless :=
  ((Codec.lossless_fixed .int32).fields (Codec.lossless_fixed .int32) (by decide)).map fun _ => rfl

theorem lossless_temporalCodec : temporalCodec.Lossless := by
  refine Codec.lossless_constants (fun part => ?_) fun part part' h => ?_
  · cases part <;> decide
  · cases part <;> cases part' <;> first | rfl | exact absurd h (by decide)

theorem lossless_of_codec? : ∀ {k : Kind} {c : Codec k.El}, codec? k = some c → c.Lossless
  | .one .bool, _, rfl => Codec.lossless_bool
  | .one (.int f), _, rfl => Codec.lossless_fixed f
  | .one .text, _, rfl => Codec.lossless_string
  | .one .point, _, rfl => lossless_pointCodec
  | .one .temporal, _, rfl => lossless_temporalCodec
  | .list .int64, _, rfl => (Codec.lossless_fixed .int64).list
  | .list .text, _, rfl => Codec.lossless_string.list
  | .set .int64, _, rfl => (Codec.lossless_fixed .int64).sortedSet
  | .map, _, rfl => (Codec.lossless_fixed .int64).sortedMap

def jsonKinds : List Kind :=
  [.one .bool, .one (.int .nat8), .one (.int .int64), .one .text, .one .temporal, .one .point,
    .list .int64, .list .text, .set .int64, .map]

theorem json_keepsAsText (names : Kind → String) (zone : Zone) : ∀ k ∈ jsonKinds,
    ∃ c : Codec k.El, Choice.json.converter? names zone k = some ⟨.one .text, c.conversion⟩ ∧
      c.conversion.KeepsAsText := by
  intro k hk
  have hcodecs : ∀ k ∈ jsonKinds, (codec? k).isSome = true := by decide
  obtain ⟨c, hc⟩ := Option.isSome_iff_exists.mp (hcodecs k hk)
  refine ⟨c, ?_, (lossless_of_codec? hc).keepsAsText⟩
  rw [Choice.converter?, hc]
  rfl

theorem json_keepsAsText_map : .map ∈ jsonKinds ∧
    ∃ c : Codec Kind.map.El,
      Choice.json.converter? (fun _ => "") (.fixed 0) .map = some ⟨.one .text, c.conversion⟩ ∧
      c.conversion.KeepsAsText ∧
      c.conversion.toModel (some (.ofList
          [("\"\n😀", Fixed.zero .int64), ("", ⟨-9223372036854775808, by decide, by decide⟩)])) =
        .ok (some "\x7b\"\":-9223372036854775808,\"\\\"\\n😀\":0\x7d") := by
  have hmap : .map ∈ jsonKinds := by decide
  obtain ⟨c, hc, hkeeps⟩ := json_keepsAsText (fun _ => "") (.fixed 0) .map hmap
  refine ⟨hmap, c, hc, hkeeps, ?_⟩
  injection hc with hconverter
  injection hconverter with _ hconversion
  rw [← hconversion]
  rfl

end Catalogue

end TypedRecords
