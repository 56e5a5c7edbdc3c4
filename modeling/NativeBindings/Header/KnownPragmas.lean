import NativeBindings.Header.Token

/-!
# The pragmas a reading knows

A `#pragma` line whose first word names no pragma is ignored with a warning that is off by
default (`unknown-pragmas`). The first words known are those of the preprocessor and of the
front end; `GCC`, `clang` and `STDC` name families of pragmas, known by their second word. An
unknown pragma of `STDC` has a warning of its own, on by default. Microsoft's pragmas come with
its extensions, and `comment` also with objects of the ELF format.

`#pragma omp` without OpenMP is ignored too, with a warning of its own that is off by default.
-/

namespace NativeBindings.Header

/-- The first words of the pragmas known in every reading. -/
def commonPragmas : List String :=
  ["once", "mark", "push_macro", "pop_macro", "message", "GCC", "clang", "STDC", "align",
   "options", "pack", "ms_struct", "weak", "redefine_extname", "unused", "unroll", "nounroll",
   "unroll_and_jam", "nounroll_and_jam", "float_control", "omp", "acc"]

/-- The first words of the pragmas that come with Microsoft's extensions. -/
def microsoftPragmas : List String :=
  ["warning", "execution_character_set", "include_alias", "hdrstop", "system_header", "region",
   "endregion", "detect_mismatch", "pointers_to_members", "vtordisp", "init_seg", "section",
   "data_seg", "bss_seg", "const_seg", "code_seg", "strict_gs_check", "function", "alloc_text",
   "optimize", "intrinsic", "fenv_access", "comment"]

/-- The second words of the pragmas of the `GCC` family. -/
def gccPragmas : List String :=
  ["poison", "system_header", "dependency", "diagnostic", "warning", "error", "visibility"]

/-- The second words of the pragmas of the `clang` family. -/
def clangPragmas : List String :=
  ["poison", "system_header", "__debug", "dependency", "diagnostic", "arc_cf_code_audited",
   "assume_nonnull", "deprecated", "restrict_expansion", "final", "module", "fp", "loop",
   "attribute", "section", "optimize", "max_tokens_here", "max_tokens_total", "riscv",
   "include_instead", "unsafe_buffer_usage"]

/-- The second words of the pragmas of the `STDC` family. -/
def stdcPragmas : List String := ["FP_CONTRACT", "FENV_ACCESS", "FENV_ROUND", "CX_LIMITED_RANGE"]

/-- The warning about a pragma line that names no pragma, given its tokens after `pragma` and
the end of the line: the place, the kind and the message. `microsoft` tells whether Microsoft's
extensions are on, `elf` whether objects have the ELF format, and `openmp` whether OpenMP is
on. -/
def unknownPragma? (microsoft elf openmp : Bool) (ts : List Token) (eol : Position) :
    Option (Position × Warning × String) :=
  let ignored (p : Position) : Option (Position × Warning × String) :=
    some (p, .off "unknown-pragmas", "unknown pragma ignored")
  match ts with
  | [] => none
  | t :: rest =>
    let known := t.kind == .identifier &&
      (commonPragmas.contains t.text || (microsoft && microsoftPragmas.contains t.text) ||
        (elf && t.text == "comment"))
    if !known then ignored t.pos
    else if t.text == "omp" && !openmp then
      some (t.pos, .off "source-uses-openmp", "unexpected '#pragma omp ...' in program")
    else
      let second := rest.head?
      let secondPos := (second.map (·.pos)).getD eol
      let secondWord := (second.filter (·.kind == .identifier)).map (·.text)
      let family : Option (List String) := match t.text with
        | "GCC" => some gccPragmas
        | "clang" => some clangPragmas
        | _ => none
      match family with
      | some names =>
        if secondWord.any names.contains then none else ignored secondPos
      | none =>
        if t.text == "STDC" && !secondWord.any stdcPragmas.contains then
          some (secondPos, .extWarn "unknown-pragmas", "unknown pragma in STDC namespace")
        else none

end NativeBindings.Header
