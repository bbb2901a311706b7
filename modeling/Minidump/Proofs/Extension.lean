import Minidump.Proofs.Diagnostics

/-!
# Bytes behind the end of a complete file

A dump that was copied in part has diagnostics that say so. A dump without any such
diagnostic says the same when more bytes follow the file, whatever they are: no read, of a
record or of bytes, has a result that depends on where the file ends, unless the file ends
too early for it. Diagnostics of other causes may be there, and are there again.

- `Error.isTruncated`, `Diagnostic.isTruncated` — what is said of a file that ends too early;
- `Dump.Complete` — a dump that says nothing of this kind;
- `Correspondence.extension` — every computation that does not fail for this cause has the
  same result with more bytes;
- `Image.outcome_append`, `Image.threadContexts_append`, `Image.environment?_append` — and so
  have the parts of a dump, none of which loses the cause it fails for;
- `Dump.dump_append` — and so the whole dump.
-/

namespace Minidump

/-- The cause that the file ends too early. -/
def Error.isTruncated : Error → Bool
  | .truncated _ _ => true
  | _ => false

/-- A diagnostic of something for which the file ends too early. -/
def Diagnostic.isTruncated : Diagnostic → Bool
  | .unknownStream _ _ => false
  | .unsupportedStream _ _ => false
  | .stream _ cause => cause.isTruncated
  | .threadContext _ cause => cause.isTruncated
  | .addressSpace cause => cause.isTruncated
  | .processEnvironment cause => cause.isTruncated

/-- A dump for no part of which the file ends too early. -/
def Dump.Complete (dump : Dump) : Prop :=
  ∀ diagnostic ∈ dump.diagnostics, diagnostic.isTruncated = false

/-- Results that do not say that the file ends too early are results with more bytes, too. -/
def Correspondence.extension (image : Image) (suffix : ByteArray) :
    Correspondence image (image.append suffix) where
  Related r s := (∀ cause, r = .error cause → cause.isTruncated = false) → s = r
  ok _ _ := rfl
  error _ _ := rfl
  bind {_ _ r s f g} hr hf h := by
    cases r with
    | error cause =>
      have hs : s = .error cause :=
        hr fun found hfound => h found (congrArg Except.error (Except.error.inj hfound))
      rw [hs]
      rfl
    | ok a =>
      have hs : s = .ok a := hr fun found hfound => (nomatch hfound)
      rw [hs]
      exact hf a h
  read layout offset h := by
    cases hread : image.read layout offset with
    | error cause =>
      obtain ⟨-, rfl⟩ := Image.read_eq_error_iff.mp hread
      cases h _ hread
    | ok a => exact Image.read_append hread suffix
  readBytes offset length h := by
    cases hread : image.readBytes offset length with
    | error cause =>
      obtain ⟨-, -, rfl⟩ := Image.readBytes_eq_error_iff.mp hread
      cases h _ hread
    | ok bs => exact Image.readBytes_append hread suffix

/-- What was found is found with more bytes. -/
theorem Correspondence.eq_ok_of_extension {image : Image} {suffix : ByteArray} {α : Type}
    {r s : Result α} {a : α} (hrelated : (extension image suffix).Related r s) (h : r = .ok a) :
    s = .ok a := by
  subst h
  exact hrelated fun cause hcause => (nomatch hcause)

namespace Image

variable {image : Image} (suffix : ByteArray)

/-! ## The parts of a dump -/

theorem outcome_append {entry : DirectoryEntry}
    (h : ∀ diagnostic, (image.outcome entry).diagnostic? = some diagnostic →
      diagnostic.isTruncated = false) :
    (image.append suffix).outcome entry = image.outcome entry := by
  cases hcode : StreamKind.ofCode? entry.code with
  | none => rw [outcome_of_unknown hcode, outcome_of_unknown hcode]
  | some kind =>
    rw [outcome_of_kind hcode] at h ⊢
    rw [outcome_of_kind hcode]
    congr 1
    by_cases hreserved : kind.IsReserved
    · rw [content_of_isReserved _ hreserved, content_of_isReserved _ hreserved]
    · by_cases hdecoded : kind.IsDecoded
      · refine (Correspondence.extension image suffix).content entry.location hdecoded ?_
        intro cause hcause
        rw [hcause] at h
        have hdiagnostic := h _ rfl
        rwa [Diagnostic.ofStream_of_content hdecoded hcause] at hdiagnostic
      · rw [content_of_not_isDecoded _ hreserved hdecoded,
          content_of_not_isDecoded _ hreserved hdecoded]

theorem threadContexts_append {contents : Contents}
    (h : ∀ thread ∈ contents.threads, ∀ cause,
      image.threadContext contents.architecture? thread = .error cause →
        cause.isTruncated = false) :
    (image.append suffix).threadContexts contents = image.threadContexts contents := by
  refine List.map_congr_left fun thread hthread => congrArg (Prod.mk thread) ?_
  exact (Correspondence.extension image suffix).threadContext _ _ (h thread hthread)

theorem environment?_append {space : Option AddressSpace} {threads : List Thread}
    (h : ∀ cause, failure? (image.environment? space threads) = some cause →
      cause.isTruncated = false) :
    (image.append suffix).environment? space threads = image.environment? space threads := by
  match space, threads with
  | none, _ => rfl
  | some space, [] => rfl
  | some space, thread :: threads =>
    refine congrArg some ((Correspondence.extension image suffix).processAt space _ ?_)
    intro cause hcause
    refine h cause ?_
    show failure? (some (ProcessMemory.processAt { space, image } thread.teb.toNat)) = _
    rw [hcause]
    rfl

/-! ## The whole dump -/

section Whole

variable {header : Header} {entries : List DirectoryEntry}

theorem mem_diagnostics_of_outcome {entry : DirectoryEntry} {diagnostic : Diagnostic}
    (hentry : entry ∈ entries) (h : (image.outcome entry).diagnostic? = some diagnostic) :
    diagnostic ∈ (image.dumpOf header entries).diagnostics := by
  have hmem : diagnostic ∈ (entries.map image.outcome).filterMap Outcome.diagnostic? :=
    List.mem_filterMap.mpr ⟨_, List.mem_map_of_mem hentry, h⟩
  exact List.mem_append_left _ (List.mem_append_left _ (List.mem_append_left _ hmem))

theorem mem_diagnostics_of_threadContext {thread : Thread} {cause : Error}
    (hthread : thread ∈ (image.contents entries).threads)
    (h : image.threadContext (image.contents entries).architecture? thread = .error cause) :
    .threadContext thread.id cause ∈ (image.dumpOf header entries).diagnostics := by
  refine List.mem_append_left _ (List.mem_append_left _ (List.mem_append_right _ ?_))
  refine List.mem_filterMap.mpr ⟨_, List.mem_map_of_mem hthread, ?_⟩
  rw [h]
  rfl

/-- All causes why a part of a dump is missing are among its diagnostics. -/
theorem dumpOf_append (h : (image.dumpOf header entries).Complete) :
    (image.append suffix).dumpOf header entries = image.dumpOf header entries := by
  have houtcomes : entries.map (image.append suffix).outcome = entries.map image.outcome := by
    refine List.map_congr_left fun entry hentry => outcome_append suffix ?_
    exact fun diagnostic hfound => h diagnostic (mem_diagnostics_of_outcome hentry hfound)
  have hcontents : (image.append suffix).contents entries = image.contents entries := by
    unfold contents
    rw [houtcomes]
  have hcontexts : (image.append suffix).threadContexts (image.contents entries)
      = image.threadContexts (image.contents entries) := by
    refine threadContexts_append suffix fun thread hthread cause hcause => ?_
    exact h (.threadContext thread.id cause) (mem_diagnostics_of_threadContext hthread hcause)
  have henvironment : (image.append suffix).environment?
        (attempted? (image.contents entries).space?) (image.contents entries).threads
      = image.environment? (attempted? (image.contents entries).space?)
        (image.contents entries).threads := by
    refine environment?_append suffix fun cause hcause => ?_
    exact h (.processEnvironment cause)
      ((image.mem_processEnvironment_dumpOf header entries).mpr hcause)
  simp only [dumpOf, houtcomes, hcontents, hcontexts, henvironment]

end Whole

end Image

namespace Dump

/-- **Trailing bytes never change a complete parse.** If a file is parsed and the dump says
nowhere that the file ends too early, the same dump is parsed, from every position, from the
file with any bytes behind its end. -/
theorem dump_append {image : Image} {position : Nat} {dump : Dump}
    (h : (Scan.dump image).runFrom position = .ok dump) (hcomplete : dump.Complete)
    (suffix : ByteArray) (next : Nat) :
    (Scan.dump (image.append suffix)).runFrom next = .ok dump := by
  have hdump : image.dump = .ok dump := (Scan.gives_dump image position).symm.trans h
  obtain ⟨header, entries, hheader, hentries, rfl⟩ := Image.exists_of_dump hdump
  let extension := Correspondence.extension image suffix
  have hheader' : (image.append suffix).header = .ok header :=
    Correspondence.eq_ok_of_extension extension.header hheader
  have hentries' : (image.append suffix).entries header = .ok entries :=
    Correspondence.eq_ok_of_extension (extension.entries header) hentries
  have hdump' : (image.append suffix).dump
      = .ok ((image.append suffix).dumpOf header entries) :=
    bind_eq_ok_iff.mpr ⟨header, hheader', bind_eq_ok_iff.mpr ⟨entries, hentries', rfl⟩⟩
  rw [Image.dumpOf_append suffix hcomplete] at hdump'
  exact (Scan.gives_dump (image.append suffix) next).trans hdump'

/-- A dump that lacks three streams, but none because of where the file ends: one of a kind
that nobody knows, one of a kind without a decoder, and a comment with half a surrogate. -/
theorem dump_append_malformed :
    let bs : List UInt8 :=
      [0x4d, 0x44, 0x4d, 0x50, 0, 0, 0, 0, 3, 0, 0, 0, 32, 0, 0, 0] ++ List.replicate 16 0
        ++ [0x78, 0x56, 0x34, 0x12, 4, 0, 0, 0, 0, 0, 0, 0]
        ++ [13, 0, 0, 0, 16, 0, 0, 0, 0, 0, 0, 0] ++ [11, 0, 0, 0, 2, 0, 0, 0, 68, 0, 0, 0]
        ++ [0, 0xd8];
    let image : Image := ⟨⟨bs.toArray⟩⟩;
    ∃ dump, (Scan.dump image).runFrom 0 = .ok dump ∧
      dump.diagnostics = [.unknownStream 0x12345678 ⟨4, 0⟩,
        .unsupportedStream .functionTable ⟨16, 0⟩, .stream .commentW .loneSurrogate] ∧
      dump.Complete ∧ (Scan.dump (image.append ⟨#[0, 0xdc]⟩)).runFrom 9 = .ok dump := by
  intro bs image
  have hdiagnostics : Dump.diagnostics <$> (Scan.dump image).runFrom 0
      = .ok [.unknownStream 0x12345678 ⟨4, 0⟩,
        .unsupportedStream .functionTable ⟨16, 0⟩, .stream .commentW .loneSurrogate] := by
    decide +kernel
  obtain ⟨dump, hdump, hlist⟩ := map_eq_ok_iff.mp hdiagnostics
  have hcomplete : dump.Complete := by
    unfold Complete
    rw [hlist]
    decide
  exact ⟨dump, hdump, hlist, hcomplete, dump_append hdump hcomplete ⟨#[0, 0xdc]⟩ 9⟩

end Dump

end Minidump
