import OpenLiveStacker.Camera

/-!
# The string encodings of `camera.cpp`

Stream formats, Bayer patterns, option value types and option identifiers travel through the
HTTP API and the configuration files as strings. `camera.cpp` gives each an encoder and a
decoder, and both throw `CamError` on what they do not know. The source writes them in two
shapes, modelled once each and instantiated with each function's own table and message:

* `chainOr`: an `if` chain of literal comparisons (`stream_type_from_str`,
  `bayer_type_from_str`), whose encoder is a `switch`;
* `nameAt` and `indexOr`: an array of names indexed by the enumerator, read after a bound check
  by the encoder and searched by a loop in the decoder (`cam_option_type_to_str`,
  `cam_option_type_from_str`, `cam_option_id_to_string_id`, `cam_option_id_from_string_id`,
  `cam_option_id_to_name`).

Main results:

* `IsCodec`: the decoder accepts exactly the strings the encoder produces, and returns the tag
  that produced them;
* `chainOr_sound`, `indexOr_sound`: a decoder of either shape returns only a tag whose encoding
  is its input, once its table agrees with the encoder;
* `encodings_round_trip`: the four encodings are codecs;
* `fromStr_error`: each decoder throws, with its own message, exactly on the strings no tag
  encodes to.
-/

namespace OpenLiveStacker

/-- An encoder and a decoder agree: `fromStr s` returns `t` exactly when `toStr t` returns `s`. -/
def IsCodec {τ : Type} (toStr : τ → Except CamError String)
    (fromStr : String → Except CamError τ) : Prop :=
  ∀ s t, fromStr s = .ok t ↔ toStr t = .ok s

namespace IsCodec

variable {τ : Type} {toStr : τ → Except CamError String} {fromStr : String → Except CamError τ}

/-- The decoder accepts a string exactly when some tag encodes to it. -/
theorem accepts_iff (h : IsCodec toStr fromStr) (s : String) :
    (∃ t, fromStr s = .ok t) ↔ ∃ t, toStr t = .ok s :=
  exists_congr (h s)

theorem from_to (h : IsCodec toStr fromStr) {t : τ} {s : String} (hs : toStr t = .ok s) :
    fromStr s = .ok t :=
  (h s t).2 hs

theorem to_from (h : IsCodec toStr fromStr) {s : String} {t : τ} (ht : fromStr s = .ok t) :
    toStr t = .ok s :=
  (h s t).1 ht

/-- A decoder that throws only `msg` throws exactly on the strings no tag encodes to. -/
theorem eq_error (h : IsCodec toStr fromStr) {s : String} {msg : CamError}
    (herr : ∀ e, fromStr s = .error e → e = msg) (e : CamError) :
    fromStr s = .error e ↔ (∀ t, toStr t ≠ .ok s) ∧ e = msg := by
  constructor
  · intro hs
    exact ⟨fun t ht => (nomatch hs.symm.trans (h.from_to ht)), herr e hs⟩
  · rintro ⟨hno, rfl⟩
    cases hs : fromStr s with
    | error e' => rw [herr e' hs]
    | ok t => exact absurd (h.to_from hs) (hno t)

end IsCodec

/-! ### The two shapes -/

section Shapes

variable {τ : Type}

/-- An `if` chain of string comparisons: the tag of the first literal equal to `s`, or a throw
of `err s` after the last. -/
def chainOr (chain : List (String × τ)) (err : String → CamError) (s : String) :
    Except CamError τ :=
  match chain.lookup s with
  | some t => .ok t
  | none => .error (err s)

/-- An array read after a bound check: `names[id]`, or a throw of `err` past the end. -/
def nameAt (names : List String) (err : CamError) (id : Nat) : Except CamError String :=
  if h : id < names.length then .ok names[id] else .error err

/-- A search loop over an array: the first index whose name equals `s`, cast to the enumeration,
or a throw of `err s` after the loop. -/
def indexOr (names : List String) (cast : Nat → τ) (err : String → CamError) (s : String) :
    Except CamError τ :=
  match names.indexOf? s with
  | some i => .ok (cast i)
  | none => .error (err s)

theorem chainOr_eq_ok {chain : List (String × τ)} {err : String → CamError} {s : String}
    {t : τ} : chainOr chain err s = .ok t ↔ chain.lookup s = some t := by
  cases h : chain.lookup s <;> simp [chainOr, h]

theorem chainOr_error {chain : List (String × τ)} {err : String → CamError} {s : String}
    {e : CamError} (h : chainOr chain err s = .error e) : e = err s := by
  cases hs : chain.lookup s <;> simp [chainOr, hs] at h
  exact h.symm

theorem indexOr_eq_ok {names : List String} {cast : Nat → τ} {err : String → CamError}
    {s : String} {t : τ} :
    indexOr names cast err s = .ok t ↔ ∃ i, names.indexOf? s = some i ∧ cast i = t := by
  cases h : names.indexOf? s <;> simp [indexOr, h]

theorem indexOr_error {names : List String} {cast : Nat → τ} {err : String → CamError}
    {s : String} {e : CamError} (h : indexOr names cast err s = .error e) : e = err s := by
  cases hs : names.indexOf? s <;> simp [indexOr, hs] at h
  exact h.symm

/-- A chain whose every literal is the encoding of its tag decodes only encodings. -/
theorem chainOr_sound {toStr : τ → Except CamError String} {chain : List (String × τ)}
    {err : String → CamError} {s : String} {t : τ}
    (hchain : ∀ p ∈ chain, toStr p.2 = .ok p.1) (h : chainOr chain err s = .ok t) :
    toStr t = .ok s := by
  obtain ⟨l₁, l₂, hl, -⟩ := List.lookup_eq_some_iff.1 (chainOr_eq_ok.1 h)
  exact hchain _ (hl ▸ List.mem_append_right l₁ (List.mem_cons_self _ l₂))

/-- A search over the names that the encoder reads by index decodes only encodings, once the
cast undoes the index on every position of the array. -/
theorem indexOr_sound {names : List String} {toIdx : τ → Nat} {cast : Nat → τ}
    {err : String → CamError} {err' : CamError} {s : String} {t : τ}
    (hcast : ∀ i < names.length, toIdx (cast i) = i) (h : indexOr names cast err s = .ok t) :
    nameAt names err' (toIdx t) = .ok s := by
  obtain ⟨i, hi, rfl⟩ := indexOr_eq_ok.1 h
  obtain ⟨hlt, heq, -⟩ := List.findIdx?_eq_some_iff_getElem.1 hi
  rw [nameAt, hcast i hlt, dif_pos hlt, beq_iff_eq.1 heq]

end Shapes

/-! ### Stream formats -/

/-- `stream_type_to_str`: the name of a stream tag; its `default` throws for any other value. -/
def streamTypeToStr : CamStreamType → Except CamError String
  | .streamYuv2 => .ok "yuv2"
  | .streamRgb24 => .ok "rgb24"
  | .streamRgb48 => .ok "rgb48"
  | .streamRaw8 => .ok "raw8"
  | .streamRaw16 => .ok "raw16"
  | .streamMono8 => .ok "mono8"
  | .streamMono16 => .ok "mono16"
  | .streamMjpeg => .ok "mjpeg"
  | .streamError => .error ⟨"Invalid Stream type"⟩

/-- The comparisons of `stream_type_from_str`, in its order. -/
def streamTypeChain : List (String × CamStreamType) :=
  [("mjpeg", .streamMjpeg), ("yuv2", .streamYuv2), ("rgb24", .streamRgb24),
    ("rgb48", .streamRgb48), ("raw8", .streamRaw8), ("raw16", .streamRaw16),
    ("mono8", .streamMono8), ("mono16", .streamMono16)]

/-- `stream_type_from_str`. -/
def streamTypeFromStr (s : String) : Except CamError CamStreamType :=
  chainOr streamTypeChain (fun s => ⟨"Invalid stream type " ++ s⟩) s

theorem streamType_isCodec : IsCodec streamTypeToStr streamTypeFromStr := fun _ t =>
  ⟨chainOr_sound (by decide), by cases t <;> rintro ⟨⟩ <;> rfl⟩

/-! ### Bayer patterns -/

/-- `bayer_type_to_str`: its `switch` names every tag, so the throw after it is reached only by
values outside the enumeration. -/
def bayerTypeToStr : CamBayerType → Except CamError String
  | .bayerNa => .ok "NA"
  | .bayerRg => .ok "RGGB"
  | .bayerGr => .ok "GRBG"
  | .bayerBg => .ok "BGGR"
  | .bayerGb => .ok "GBRG"

/-- The comparisons of `bayer_type_from_str`, in its order. -/
def bayerTypeChain : List (String × CamBayerType) :=
  [("NA", .bayerNa), ("RGGB", .bayerRg), ("GRBG", .bayerGr), ("BGGR", .bayerBg),
    ("GBRG", .bayerGb)]

/-- `bayer_type_from_str`. -/
def bayerTypeFromStr (bayer : String) : Except CamError CamBayerType :=
  chainOr bayerTypeChain (fun s => ⟨"Invalid bayer format " ++ s⟩) bayer

theorem bayerType_isCodec : IsCodec bayerTypeToStr bayerTypeFromStr := fun _ t =>
  ⟨chainOr_sound (by decide), by cases t <;> rintro ⟨⟩ <;> rfl⟩

/-! ### Option value types -/

/-- `cam_option_type_names`. -/
def camOptionTypeNames : List String := ["bool", "number", "msec", "percent", "kelvin", "celsius"]

/-- `cam_option_type_to_str`. -/
def camOptionTypeToStr (type : CamOptionType) : Except CamError String :=
  nameAt camOptionTypeNames ⟨"Invalid type"⟩ type.toCtorIdx

/-- `cam_option_type_from_str`; `static_cast<CamOptionType>(i)` is `CamOptionType.ofNat i`. -/
def camOptionTypeFromStr (name : String) : Except CamError CamOptionType :=
  indexOr camOptionTypeNames CamOptionType.ofNat (fun s => ⟨"Invalid type:" ++ s⟩) name

theorem camOptionType_isCodec : IsCodec camOptionTypeToStr camOptionTypeFromStr := fun _ t =>
  ⟨indexOr_sound (by decide), by cases t <;> rintro ⟨⟩ <;> rfl⟩

/-! ### Option identifiers -/

/-- `option_string_ids`, indexed by `CamOptionId`. -/
def optionStringIds : List String :=
  ["auto_exp", "auto_wb", "exp", "wb", "wb_r", "wb_b", "gain", "gamma", "brightness", "contrast",
    "temperature", "cooler_target", "cooler_on", "fan_on", "cooler_power", "live_stretch"]

/-- `option_names`: the display names, parallel to `option_string_ids`. -/
def optionNames : List String :=
  ["Auto Exp.", "Auto WB", "Exp.", "WB", "WB Red", "WB Blue", "Gain", "Gamma", "Bright.",
    "Contr.", "Temp.", "Cooler Tgt.", "Cooler", "Fan", "Cooler Pwr.", "Auto Str."]

/-- `cam_option_id_to_string_id`. -/
def camOptionIdToStringId (id : CamOptionId) : Except CamError String :=
  nameAt optionStringIds ⟨"Invalid option id"⟩ id.toCtorIdx

/-- `cam_option_id_to_name`. -/
def camOptionIdToName (id : CamOptionId) : Except CamError String :=
  nameAt optionNames ⟨"Invalid option id"⟩ id.toCtorIdx

/-- `cam_option_id_from_string_id`; its message does not quote the string. -/
def camOptionIdFromStringId (name : String) : Except CamError CamOptionId :=
  indexOr optionStringIds CamOptionId.ofNat (fun _ => ⟨"Invalid option id"⟩) name

theorem camOptionId_isCodec : IsCodec camOptionIdToStringId camOptionIdFromStringId :=
  fun _ t => ⟨indexOr_sound (by decide), by cases t <;> rintro ⟨⟩ <;> rfl⟩

/-- Both arrays indexed by `CamOptionId` have an entry for every identifier, so neither encoder
throws. -/
theorem camOptionId_encoders_ok (id : CamOptionId) :
    ∃ s n, camOptionIdToStringId id = .ok s ∧ camOptionIdToName id = .ok n := by
  cases id <;> exact ⟨_, _, rfl, rfl⟩

/-! ### The four encodings -/

/-- For each encoding of `camera.cpp`, the decoder accepts a string exactly when it is the name
the encoder gives some tag, and then returns that tag. -/
theorem encodings_round_trip :
    IsCodec streamTypeToStr streamTypeFromStr ∧ IsCodec bayerTypeToStr bayerTypeFromStr ∧
      IsCodec camOptionTypeToStr camOptionTypeFromStr ∧
      IsCodec camOptionIdToStringId camOptionIdFromStringId :=
  ⟨streamType_isCodec, bayerType_isCodec, camOptionType_isCodec, camOptionId_isCodec⟩

/-- Each decoder throws exactly on the strings that no tag encodes to, with its own message. -/
theorem fromStr_error (s : String) (e : CamError) :
    (streamTypeFromStr s = .error e ↔
      (∀ t, streamTypeToStr t ≠ .ok s) ∧ e = ⟨"Invalid stream type " ++ s⟩) ∧
    (bayerTypeFromStr s = .error e ↔
      (∀ t, bayerTypeToStr t ≠ .ok s) ∧ e = ⟨"Invalid bayer format " ++ s⟩) ∧
    (camOptionTypeFromStr s = .error e ↔
      (∀ t, camOptionTypeToStr t ≠ .ok s) ∧ e = ⟨"Invalid type:" ++ s⟩) ∧
    (camOptionIdFromStringId s = .error e ↔
      (∀ t, camOptionIdToStringId t ≠ .ok s) ∧ e = ⟨"Invalid option id"⟩) :=
  ⟨streamType_isCodec.eq_error (fun _ => chainOr_error) e,
    bayerType_isCodec.eq_error (fun _ => chainOr_error) e,
    camOptionType_isCodec.eq_error (fun _ => indexOr_error) e,
    camOptionId_isCodec.eq_error (fun _ => indexOr_error) e⟩

end OpenLiveStacker
