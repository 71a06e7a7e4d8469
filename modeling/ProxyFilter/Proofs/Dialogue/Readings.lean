import ProxyFilter.Proofs.Text.Subparts
import ProxyFilter.Proxy

/-!
# Properties that are read as text

A property is read as text in two ways: by its name, and as the path of a request. Where the proxy
has a value for it, both come to the lossy text of its bytes. What is known of lossy text is so
known of both.
-/

namespace ProxyFilter.Property

open Dialogue Text

variable {σ : Type}

/-- The ways to read a property as text, by the parts of its name. -/
inductive Reader : List String → Dialogue (Except Status String) → Prop where
  /-- Any property may be read by its name. -/
  | byName (path : List String) : Reader path (text path)
  /-- One property is read as the path of the request. -/
  | asPath : Reader ["request", "path"] requestPath

/-- Whether a text is read from a property that holds some bytes, in either way and under some
proxy. -/
def Gives (bytes : Bytes) (text : String) : Prop :=
  ∃ (σ : Type) (host : Host σ) (world : σ) (path : List String)
    (reader : Dialogue (Except Status String)), Reader path reader ∧
      (host (.property path) world).1 = .ok (some bytes) ∧
      (reader.run host world).value = .ok text

/-- A property that has a value is read as the text of its bytes. -/
theorem Reader.run_eq {path : List String} {reader : Dialogue (Except Status String)}
    (h : Reader path reader) {host : Host σ} {world : σ} {bytes : Bytes}
    (hheld : (host (.property path) world).1 = .ok (some bytes)) :
    (reader.run host world).value = .ok (decode bytes) := by
  cases h with
  | byName path =>
    rw [text, run_call_bind, hheld]
    rfl
  | asPath =>
    rw [requestPath, run_call_bind, hheld]
    rfl

/-- The text that is read is that of the bytes. -/
theorem eq_decode_of_gives {bytes : Bytes} {text : String} (h : Gives bytes text) :
    text = decode bytes := by
  obtain ⟨σ, host, world, path, reader, hreader, hheld, hvalue⟩ := h
  rw [hreader.run_eq hheld] at hvalue
  exact (Except.ok.inj hvalue).symm

/-- Bytes that are cut before what does not continue a character are decoded in two parts. -/
theorem decode_append (first : Bytes) {rest : Bytes} (hrest : Utf8.Begins rest) :
    decode (first ++ rest) = decode first ++ decode rest := by
  rw [decode, Utf8.lossy_append first hrest, String.ofList_append]
  rfl

/-- Properties are decoded part by part. Let a property be read as text, by its name or as the path
of the request, and let the proxy have bytes for it. A text is given, and it is the same in both
ways where both are possible. If the bytes are cut before what does not continue a character, it is
the texts that are read from two properties that hold the parts, one behind the other. If the bytes
are those of a text, it is that text. It has the characters of the bytes, with one replacement for
every maximal ill-formed piece and nothing else, so that its ASCII characters are the ASCII bytes,
in order. -/
theorem decoded_part_by_part {path : List String} {reader : Dialogue (Except Status String)}
    (hreader : Reader path reader) {host : Host σ} {world : σ} {bytes : Bytes}
    (hheld : (host (.property path) world).1 = .ok (some bytes)) :
    ∃ given : String, (reader.run host world).value = .ok given ∧
      (∀ first rest front back, bytes = first ++ rest → Utf8.Begins rest → Gives first front →
        Gives rest back → given = front ++ back) ∧
      (∀ whole : String, bytes = Utf8.encode whole.toList → given = whole) ∧
      (∀ chars, Utf8.Reads bytes chars ↔ chars = given.toList) ∧
      given.toList.filter Utf8.isAscii =
        (bytes.filter fun byte => byte.toNat < 0x80).map (fun byte => Char.ofNat byte.toNat) ∧
      (path = ["request", "path"] → (requestPath.run host world).value = .ok given ∧
        ((text path).run host world).value = .ok given) := by
  refine ⟨decode bytes, hreader.run_eq hheld, ?_, ?_, ?_, ?_, ?_⟩
  · rintro first rest front back rfl hrest hfront hback
    rw [eq_decode_of_gives hfront, eq_decode_of_gives hback, decode_append first hrest]
  · rintro whole rfl
    exact decode_encode whole
  · intro chars
    rw [Utf8.reads_iff, decode, String.toList_ofList]
  · rw [decode, String.toList_ofList, Utf8.filter_lossy]
  · rintro rfl
    exact ⟨Reader.asPath.run_eq hheld, (Reader.byName _).run_eq hheld⟩

/-- A proxy that holds bytes for the path of a request. -/
def sampleHolding (bytes : Bytes) : World :=
  ⟨{ Proxy.blank with properties := [("request.path", bytes)] }, 1⟩

/-- In the sample a character of three bytes is cut off behind two, which one replacement stands
for, and the byte behind it is read as if it stood alone. -/
theorem sample_decoded_part_by_part :
    let first : Bytes := [0x2F, 0xE2, 0x82]
    let rest : Bytes := [0x61]
    let world := sampleHolding (first ++ rest)
    (Proxy.host (.property ["request", "path"]) world).1 = .ok (some (first ++ rest)) ∧
      Gives first "/\uFFFD" ∧ Gives rest "a" ∧
      (requestPath.run Proxy.host world).value = .ok ("/\uFFFD" ++ "a") := by
  intro first rest world
  have hheld : (Proxy.host (.property ["request", "path"]) world).1 =
      .ok (some (first ++ rest)) := by
    decide
  have hfirst : Gives first "/\uFFFD" :=
    ⟨World, Proxy.host, sampleHolding first, _, _, .byName ["request", "path"], by decide,
      by decide⟩
  have hrest : Gives rest "a" :=
    ⟨World, Proxy.host, sampleHolding rest, _, _, .asPath, by decide, by decide⟩
  obtain ⟨given, hvalue, hparts, -⟩ := decoded_part_by_part .asPath hheld
  have hbegins : Utf8.Begins rest := by
    rintro byte ⟨⟩
    exact .inl (by decide)
  rw [hparts first rest _ _ rfl hbegins hfirst hrest] at hvalue
  exact ⟨hheld, hfirst, hrest, hvalue⟩

end ProxyFilter.Property
