import Orchid.Directory.DirectoryServer

/-!
# Orchid — does a certificate belong to the authority it names?

A key certificate is meant to bind a signing key to the identity key of the authority whose
fingerprint it carries. The parser checks one of the three links on its own account, the
certification signature. The `fingerprint` line is never compared with the identity key, and
a cross signature is verified where there is one but not required.

* **`certificate_bound_iff`**: which reported certificates are bound all the same, read off
  their text, and what `addCertificate` makes of them.
* **`forged_certificate_stored`**: a certificate that names an authority whose key had no
  part in it is reported and stored for that authority.
-/

namespace Orchid

open Prog KeyCertificateParser Platform

variable (P : Platform)

/-- The entries of a certificate's text. -/
def certificateItems (raw : JString) : List (Item Entry) :=
  (certificateFormat P).items (lines (latin1 raw))

/-- The fingerprint is the SHA-1 fingerprint of the identity key. -/
def NamesIdentityKey (c : KeyCertificate) : Prop :=
  ∃ key ∈ c.identityKey, ∃ fingerprint ∈ c.getAuthorityFingerprint,
    key.getFingerprint P = .ok fingerprint

instance (c : KeyCertificate) : Decidable (NamesIdentityKey P c) :=
  inferInstanceAs (Decidable (∃ key ∈ c.identityKey, ∃ fingerprint ∈ c.getAuthorityFingerprint,
    key.getFingerprint P = .ok fingerprint))

/-- The text ends with a certification, and its signature verifies under the identity key
over everything up to and including the certification line. -/
def SelfSigned (c : KeyCertificate) : Prop :=
  ∃ raw key block line keyword body signature, c.rawDocumentData = some raw ∧
    c.identityKey = some key ∧
    certificateItems P raw = block ++ [.entry line keyword body (.certification signature)] ∧
    raw = unlines (block.flatMap Item.lines ++ line :: body) ∧
    key.verifySignature P signature
      (P.sha1 (latin1 (unlines (block.flatMap Item.lines ++ [line])))) = .ok true

/-- The text has a cross signature that was checked with the certificate's own two keys, and
it verifies. -/
def CrossCertified (c : KeyCertificate) : Prop :=
  ∃ raw before line keyword body signature after, c.rawDocumentData = some raw ∧
    certificateItems P raw = before ++ .entry line keyword body (.crosscert signature) :: after ∧
    (fieldsOf before).identityKey = c.identityKey ∧ (fieldsOf before).signingKey = c.signingKey ∧
    CrossVerifies P c signature

/-- A certificate bound to the authority it names. -/
structure Bound (c : KeyCertificate) : Prop where
  names : NamesIdentityKey P c
  signed : SelfSigned P c
  cross : CrossCertified P c

/-- The last `fingerprint` line of a text names the last identity key in it. -/
def TextNamesIdentityKey (raw : JString) : Prop :=
  NamesIdentityKey P (fieldsOf (certificateItems P raw))

def isCrosscert : Item Entry → Bool
  | .entry _ _ _ (.crosscert _) => true
  | _ => false

/-- Some cross signature of a text stands where both keys have their final values. -/
def TextCrossSignsKeys (raw : JString) : Prop :=
  ∃ i < (certificateItems P raw).length, (certificateItems P raw)[i]?.any isCrosscert ∧
    (fieldsOf ((certificateItems P raw).take i)).identityKey =
      (fieldsOf (certificateItems P raw)).identityKey ∧
    (fieldsOf ((certificateItems P raw).take i)).signingKey =
      (fieldsOf (certificateItems P raw)).signingKey

instance (raw : JString) : Decidable (TextCrossSignsKeys P raw) :=
  inferInstanceAs (Decidable (∃ i < _, _))

instance (raw : JString) : Decidable (TextNamesIdentityKey P raw) :=
  inferInstanceAs (Decidable (NamesIdentityKey P _))

/-- The key whose fingerprint is the authority's v3 identity has certified the certificate. -/
def CertifiedByAuthority (server : DirectoryServer) (c : KeyCertificate) : Prop :=
  ∃ key identity, server.v3Ident = some identity ∧ c.identityKey = some key ∧
    key.getFingerprint P = .ok identity ∧ c.signingKey.isSome ∧ SelfSigned P c

variable {P}

/-! ## From the run to the text -/

section Certified

variable {c : KeyCertificate} {block : List (Item Entry)} {line keyword : JString}
  {body : List JString} {signature : TorSignature}
  (h : Certified P c block line keyword body signature)
include h

/-- The text of a reported certificate reads back as the entries it was made from. -/
theorem KeyCertificateParser.Certified.items :
    certificateItems P (textOf (block ++ [.entry line keyword body (.certification signature)])) =
      block ++ [.entry line keyword body (.certification signature)] := by
  unfold certificateItems textOf
  have hclean : ∀ l ∈ (block ++
      [Item.entry line keyword body (Entry.certification signature)]).flatMap Item.lines,
      CleanLine l := by
    intro l hl
    obtain ⟨item, hitem, hl⟩ := List.mem_flatMap.mp hl
    exact (h.sound item hitem).2 l hl
  rw [lines_unlines hclean]
  exact (certificateFormat P).items_of_complete fun item hitem => (h.sound item hitem).1

/-- The keys and the fingerprint are those the text sets last. -/
theorem KeyCertificateParser.Certified.fieldsOf_items :
    let last := fieldsOf (block ++ [.entry line keyword body (.certification signature)])
    last.identityKey = c.identityKey ∧ last.signingKey = c.signingKey ∧
      last.fingerprint = c.fingerprint := by
  have hlast : fieldsOf (block ++ [.entry line keyword body (.certification signature)]) =
      fieldsOf block := by
    rw [fieldsOf_append_entry]
    rfl
  rw [hlast, h.fields]
  exact ⟨rfl, rfl, rfl⟩

theorem KeyCertificateParser.Certified.selfSigned : SelfSigned P c := by
  obtain ⟨key, hkey, hver⟩ := h.signed
  refine ⟨_, key, block, line, keyword, body, signature, by rw [h.fields], hkey, h.items, ?_, ?_⟩
  · simp [textOf, Item.lines]
  · rw [unlines_append, ← textOf, show unlines [line] = line ++ lit "\n" by simp [unlines],
      ← List.append_assoc]
    exact hver

/-- A cross signature of the text stands before the certification. -/
theorem KeyCertificateParser.Certified.cross_mem
    {before after : List (Item Entry)} {line' keyword' : JString} {body' : List JString}
    {signature' : TorSignature}
    (hsplit : block ++ [.entry line keyword body (.certification signature)] =
      before ++ .entry line' keyword' body' (.crosscert signature') :: after) :
    CrossVerifies P (fieldsOf before) signature' := by
  rcases List.eq_nil_or_concat after with rfl | ⟨after', last, rfl⟩
  · obtain ⟨-, hlast⟩ := List.append_inj' hsplit rfl
    cases hlast
  · have hsplit' : block ++ [.entry line keyword body (.certification signature)] =
        (before ++ .entry line' keyword' body' (.crosscert signature') :: after') ++ [last] := by
      rw [hsplit]
      simp
    obtain ⟨hblock, -⟩ := List.append_inj' hsplit' rfl
    exact h.cross before line' keyword' body' signature' after' hblock

end Certified

/-- A cross signature cuts the entries in two. -/
theorem exists_split_of_isCrosscert {items : List (Item Entry)} {i : Nat}
    (h : items[i]?.any isCrosscert = true) :
    ∃ before line keyword body signature after,
      items = before ++ .entry line keyword body (.crosscert signature) :: after ∧
        i = before.length := by
  cases hitem : items[i]? with rw [hitem] at h
  | none => cases h
  | some item =>
    obtain ⟨hlt, hget⟩ := List.getElem?_eq_some_iff.mp hitem
    have hsplit : items = items.take i ++ item :: items.drop (i + 1) := by
      rw [← hget, ← List.drop_eq_getElem_cons hlt, List.take_append_drop]
    have hlen : i = (items.take i).length := by
      rw [List.length_take]
      omega
    cases item with
    | entry line keyword body e =>
      cases e with
      | crosscert signature =>
        exact ⟨items.take i, line, keyword, body, signature, items.drop (i + 1), hsplit, hlen⟩
      | _ => cases h
    | _ => cases h

/-! ## The exact condition -/

/-- A reported certificate is bound to the authority it names exactly when its own text
names its identity key and cross-signs its final keys; the certification signature over the
text is there in any case. What `addCertificate` then stores is certified by the authority's
key exactly when the text names its identity key. -/
theorem certificate_bound_iff (P : Platform) (input : List UInt8) (c : KeyCertificate)
    (hc : c ∈ reported P input) :
    SelfSigned P c ∧ ∃ raw, c.rawDocumentData = some raw ∧
      (Bound P c ↔ TextNamesIdentityKey P raw ∧ TextCrossSignsKeys P raw) ∧
      ∀ server server' : DirectoryServer, server.addCertificate P c = .ok server' →
        (CertifiedByAuthority P server c ↔ TextNamesIdentityKey P raw) := by
  obtain ⟨block, line, keyword, body, signature, h⟩ := reported_certified P input c hc
  have hitems := h.items
  obtain ⟨hident, hsign, hfp⟩ := h.fieldsOf_items
  have hnames : NamesIdentityKey P c ↔ TextNamesIdentityKey P
      (textOf (block ++ [.entry line keyword body (.certification signature)])) := by
    unfold TextNamesIdentityKey NamesIdentityKey KeyCertificate.getAuthorityFingerprint
    rw [hitems, hident, hfp]
  refine ⟨h.selfSigned, _, by rw [h.fields], ⟨fun hb => ⟨hnames.mp hb.names, ?_⟩, ?_⟩, ?_⟩
  · obtain ⟨raw, before, line', keyword', body', signature', after, hraw, hsplit, hi, hs, -⟩ := hb.cross
    rw [h.fields] at hraw
    cases hraw
    refine ⟨before.length, by rw [hsplit]; simp, by rw [hsplit]; simp [isCrosscert], ?_⟩
    rw [hsplit, List.take_left' rfl, ← hsplit, hitems, hi, hs, hident, hsign]
    exact ⟨rfl, rfl⟩
  · rintro ⟨hn, i, -, hcross, hi, hs⟩
    obtain ⟨before, line', keyword', body', signature', after, hsplit, rfl⟩ :=
      exists_split_of_isCrosscert hcross
    rw [hsplit, List.take_left' rfl, ← hsplit, hitems] at hi hs
    refine ⟨hnames.mpr hn, h.selfSigned, _, before, line', keyword', body', signature', after,
      by rw [h.fields], hsplit, hi.trans hident, hs.trans hsign, ?_⟩
    -- the parser verified it with the keys in force at its line, and these are the final ones
    rw [hitems] at hsplit
    obtain ⟨identityKey, signingKey, fingerprint, hik, hsk, hprint, hver⟩ := h.cross_mem hsplit
    refine ⟨identityKey, signingKey, fingerprint, ?_, ?_, hprint, hver⟩
    · rw [← hident, ← hi, hik]
    · rw [← hsign, ← hs, hsk]
  · intro server server' hadd
    obtain ⟨-, hsigning, hv3, -⟩ := DirectoryServer.addCertificate_ok hadd
    rw [← hnames]
    constructor
    · rintro ⟨key, identity, hidentity, hkey, hprint, -, -⟩
      exact ⟨key, hkey, identity, hv3.trans hidentity, hprint⟩
    · rintro ⟨key, hkey, fingerprint, hname, hprint⟩
      exact ⟨key, fingerprint, hv3.symm.trans hname, hkey, hprint, hsigning, h.selfSigned⟩

/-! ## Two documents -/

/-- A complete certificate whose `fingerprint` line names a key of somebody else. -/
def forgedCertificate : List UInt8 := latin1 (unlines [
  lit "fingerprint 1111111111111111111111111111111111111111",
  lit "dir-identity-key",
  lit "-----BEGIN RSA PUBLIC KEY-----",
  lit "AAAA",
  lit "-----END RSA PUBLIC KEY-----",
  lit "dir-key-published 2013-01-01 00:00:00",
  lit "dir-key-expires 2033-01-01 00:00:00",
  lit "dir-signing-key",
  lit "-----BEGIN RSA PUBLIC KEY-----",
  lit "BBBB",
  lit "-----END RSA PUBLIC KEY-----",
  lit "dir-key-certification",
  lit "-----BEGIN SIGNATURE-----",
  lit "gYGBgYGBgYGBgYGBgYGBgYGBgYE=",
  lit "-----END SIGNATURE-----"])

/-- The same with the right fingerprint and a cross signature. -/
def genuineCertificate : List UInt8 := latin1 (unlines [
  lit "fingerprint BEBEBEBEBEBEBEBEBEBEBEBEBEBEBEBEBEBEBEBE",
  lit "dir-identity-key",
  lit "-----BEGIN RSA PUBLIC KEY-----",
  lit "AAAA",
  lit "-----END RSA PUBLIC KEY-----",
  lit "dir-key-published 2013-01-01 00:00:00",
  lit "dir-key-expires 2033-01-01 00:00:00",
  lit "dir-signing-key",
  lit "-----BEGIN RSA PUBLIC KEY-----",
  lit "BBBB",
  lit "-----END RSA PUBLIC KEY-----",
  lit "dir-key-crosscert",
  lit "-----BEGIN SIGNATURE-----",
  lit "vr6+vr6+vr6+vr6+vr6+vr6+vr4=",
  lit "-----END SIGNATURE-----",
  lit "dir-key-certification",
  lit "-----BEGIN SIGNATURE-----",
  lit "urq6urq6urq6urq6urq6urq6uro=",
  lit "-----END SIGNATURE-----"])

/-- A reported certificate that meets the condition. -/
theorem genuine_certificate_bound :
    ∃ c ∈ reported checksum genuineCertificate, Bound checksum c := by
  have hany : ((reported checksum genuineCertificate).any fun c =>
      c.rawDocumentData.all fun raw => decide (TextNamesIdentityKey checksum raw) &&
        decide (TextCrossSignsKeys checksum raw)) = true := by decide +kernel
  obtain ⟨c, hc, htext⟩ := List.any_eq_true.mp hany
  obtain ⟨-, raw, hraw, hbound, -⟩ := certificate_bound_iff checksum genuineCertificate c hc
  rw [hraw] at htext
  simp only [Option.all_some, Bool.and_eq_true, decide_eq_true_eq] at htext
  exact ⟨c, hc, hbound.mpr htext⟩

/-- The authority named by the forged certificate. -/
def namedAuthority : DirectoryServer :=
  { v3Ident := some ⟨List.replicate TOR_DIGEST_SIZE 0x11, Or.inl rfl⟩ }

/-- The forged certificate is reported and stored for the authority it names, whose key is
not the one that signed it. -/
theorem forged_certificate_stored :
    ∃ c ∈ reported checksum forgedCertificate,
      ¬ Bound checksum c ∧
      ∃ server', namedAuthority.addCertificate checksum c = .ok server' ∧
        c ∈ server'.certificates ∧ ¬ CertifiedByAuthority checksum namedAuthority c := by
  have hany : ((reported checksum forgedCertificate).any fun c =>
      !decide (NamesIdentityKey checksum c) &&
        (namedAuthority.addCertificate checksum c).isOk) = true := by decide +kernel
  obtain ⟨c, hc, hcheck⟩ := List.any_eq_true.mp hany
  simp only [Bool.and_eq_true, Bool.not_eq_true', decide_eq_false_iff_not] at hcheck
  obtain ⟨hnames, hok⟩ := hcheck
  cases hadd : namedAuthority.addCertificate checksum c with
  | error e => rw [hadd] at hok; cases hok
  | ok server' =>
    obtain ⟨-, -, hv3, rfl⟩ := DirectoryServer.addCertificate_ok hadd
    refine ⟨c, hc, fun hb => hnames hb.names, _, hadd, ?_, ?_⟩
    · exact List.mem_append_right _ (List.mem_singleton.mpr rfl)
    rintro ⟨key, identity, hidentity, hkey, hprint, -, -⟩
    exact hnames ⟨key, hkey, identity, hv3.trans hidentity, hprint⟩

end Orchid
