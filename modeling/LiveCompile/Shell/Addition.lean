import LiveCompile.Shell.Input

/-! Commands that only the extended shell has, or has in a way of its own. -/

namespace LiveCompile.Shell.Builtin

/-- Computes expressions; the last one counts. -/
def computes : Builtin := fun state arguments =>
  if arguments.isEmpty then state.object 1 (chars "expression expected")
  else
    let step (done : State × Chars) (text : Chars) : State × Chars :=
      if done.1.isGoing then done.1.calculate text else done
    let (after, value) := arguments.foldl step (state, [])
    if after.isGoing then after.withStatus (if value = ['0'] then 1 else 0)
    else { after with flow := .going, status := 1 }

/-- Settings of the extended shell that have no letters, with whether they are on at first. -/
def switchTable : List (String × Bool) :=
  [("autocd", false), ("assoc_expand_once", false), ("cdable_vars", false), ("cdspell", false),
    ("checkhash", false), ("checkjobs", false), ("checkwinsize", true), ("cmdhist", true),
    ("compat31", false), ("compat32", false), ("compat40", false), ("compat41", false),
    ("compat42", false), ("compat43", false), ("compat44", false), ("complete_fullquote", true),
    ("direxpand", false), ("dirspell", false), ("dotglob", false), ("execfail", false),
    ("expand_aliases", false), ("extdebug", false), ("extglob", false), ("extquote", true),
    ("failglob", false), ("force_fignore", true), ("globasciiranges", true),
    ("globskipdots", true), ("globstar", false), ("gnu_errfmt", false), ("histappend", false),
    ("histreedit", false), ("histverify", false), ("hostcomplete", true), ("huponexit", false),
    ("inherit_errexit", false), ("interactive_comments", true), ("lastpipe", false),
    ("lithist", false), ("localvar_inherit", false), ("localvar_unset", false),
    ("login_shell", false), ("mailwarn", false), ("no_empty_cmd_completion", false),
    ("nocaseglob", false), ("nocasematch", false), ("noexpand_translation", false),
    ("nullglob", false), ("patsub_replacement", true), ("progcomp", true),
    ("progcomp_alias", false), ("promptvars", true), ("restricted_shell", false),
    ("shift_verbose", false), ("sourcepath", true), ("varredir_close", false),
    ("xpg_echo", false)]

/-- The switches that are on at first. -/
def usualSwitches : List Chars :=
  switchTable.filterMap fun (name, isOn) => if isOn then some (chars name) else none

/-- Shows or changes switches. -/
def switches : Builtin := fun state arguments =>
  match lettersOf "pqsuo" "" arguments with
  | .error letter => state.refuseOption ['-', letter] "shopt [-pqsu] [-o] [optname ...]"
  | .ok (options, names) =>
    let has (letter : Char) : Bool := options.any (·.1 = letter)
    let isOn (state : State) (name : Chars) : Bool := state.switches.contains name
    let line (state : State) (name : Chars) : Chars :=
      if has 'p' then
        chars (if isOn state name then "shopt -s " else "shopt -u ") ++ name ++ ['\n']
      else
        name ++ List.replicate (15 - name.length) ' '
          ++ chars (if isOn state name then "\ton\n" else "\toff\n")
    let step (state : State) (name : Chars) : State :=
      if !switchTable.any fun (other, _) => other.toList = name then
        state.object 1 (name ++ chars ": invalid shell option name")
      else if has 's' then { state with switches := name :: state.switches }
      else if has 'u' then { state with switches := state.switches.filter (· ≠ name) }
      else
        let state := if has 'q' then state else state.write 1 (line state name)
        if isOn state name then state else state.withStatus 1
    let known := switchTable.map fun (name, _) => chars name
    if has 'o' then state.withStatus 0
    else if !names.isEmpty then names.foldl step (state.withStatus 0)
    else
      let shown := known.filter fun name => isOn state name = (has 's' || !has 'u' && isOn state name)
      state.answer (shown.flatMap (line state))

end LiveCompile.Shell.Builtin

namespace LiveCompile.Shell

def addedCommands : List (String × Builtin) :=
  [("let", Builtin.computes), ("shopt", Builtin.switches), ("disown", Builtin.nothing),
    ("declare", Builtin.declares "declare" []), ("typeset", Builtin.declares "typeset" []),
    ("local", Builtin.declares "local" []), ("export", Builtin.declares "export" ['x']),
    ("readonly", Builtin.declares "readonly" ['r']), ("unset", Builtin.forgets),
    ("read", Builtin.reads), ("mapfile", Builtin.readsLines), ("readarray", Builtin.readsLines),
    ("unalias", Builtin.nothing), ("enable", Builtin.nothing)]

end LiveCompile.Shell
