/-!
# 試験台のファイル

試験台の計算機にある path の種類。命令行と serial の試験は、存在しない path、
`/dev/null` のような端末でない装置、ディレクトリ、標準的な file、そして設定の file だけを使う。

serial 端末として開くと、存在しない path は `No such file or directory`、ディレクトリは
`Is a directory`、端末でない file や装置は `Not a typewriter`、動いている program 自身の
実行 file は `Text file busy`、file や装置の下の path は `Not a directory`、長すぎる path や
名前は `File name too long`、NUL を含む path は `Invalid argument` で失敗する。
file として読むと、装置は空の内容を返し、UTF-8 でない file（実行 file）は
`stream did not contain valid UTF-8`、NUL を含む path は
`file name contained an unexpected NUL byte`、ディレクトリ、存在しない path、file や装置の下の
path、長すぎる path や名前は OS の誤り番号つきで失敗する。

## path の辿り方

path は `/` で区切った名前の並びで、続いた `/` は一つと同じ。NUL を含む path は OS に渡す前に
断られ、4096 byte 以上の path は辿る前に長すぎるとされる。絶対 path は `/` から、相対
path は作業ディレクトリ `/tmp` から辿る。`.` はその場、`..` は一つ上（`/` の上は `/`）。
途中の名前は、そこまでがディレクトリでなければ辿れない：存在しなければ
`No such file or directory`、file や装置なら `Not a directory`。ディレクトリの中で 255 byte を
超える名前を探すと長すぎるとされる（その前の名前で辿れなくなれば、その誤りが先）。末尾の `/` は
ディレクトリにしか付けられない。`/bin` のような symbolic link は、辿るときに指す先に置き換える。

引数の中の `@CONFIG@`（設定の file）、`@DIR@`（試験用のディレクトリ）、`@MISSING@`（存在
しない path）は、作業ディレクトリの中の同じ名前を指す絶対 path に置き換えてから辿る。
`/proc/self` は動いている program を見せる：`cwd` は作業ディレクトリ、`root` は `/`、`exe` は
実行 file、`fd/0` 〜 `fd/2` は標準入出力（端末でない）。`/dev/stdin` などはそこを指す。

## 停止性

辿る関数は名前の並びについての構造的な再帰。
-/

namespace TankDrive.Bench

/-- file の中身。 -/
inductive Contents where
  | text (s : String)
  /-- UTF-8 として読めない中身（実行 file）。 -/
  | binary
  /-- 動いている program 自身の実行 file。UTF-8 として読めず、書き込むためには開けない。 -/
  | running
deriving Repr, DecidableEq, Inhabited

/-- path の種類。 -/
inductive Entry where
  | missing
  | directory
  | file (contents : Contents)
  /-- 端末でない文字装置。読むと空。 -/
  | device
  /-- serial 端末。 -/
  | terminal
  /-- file や装置をディレクトリとして辿った path。 -/
  | belowFile
  /-- 長すぎる path か、ディレクトリの中で探した長すぎる名前。 -/
  | nameTooLong
  /-- NUL を含む path。OS には渡せない。 -/
  | nulInName
deriving Repr, DecidableEq, Inhabited

/-- 試験台のファイル。 -/
structure Files where
  lookup : String → Entry

/-! ## 標準的な計算機 -/

/-- 名前の並びを `/` で始まる path にする。 -/
def absolutePath (names : List String) : String :=
  "/" ++ "/".intercalate names

/-- 標準的な計算機にあるディレクトリ。 -/
def standardDirectories : List String :=
  ["/", "/boot", "/dev", "/etc", "/home", "/media", "/mnt", "/opt", "/proc", "/root", "/run",
    "/srv", "/sys", "/tmp", "/usr", "/var", "/dev/pts", "/dev/shm", "/dev/mqueue", "/etc/apt",
    "/proc/self/fd",
    "/etc/default", "/etc/ssl", "/proc/self", "/run/lock", "/sys/block", "/sys/bus", "/sys/class",
    "/sys/dev", "/sys/devices", "/sys/fs", "/sys/kernel", "/sys/module", "/usr/bin",
    "/usr/games", "/usr/include", "/usr/lib", "/usr/lib64", "/usr/libexec", "/usr/local",
    "/usr/sbin", "/usr/share", "/usr/src", "/usr/local/bin", "/usr/local/etc",
    "/usr/local/games", "/usr/local/include", "/usr/local/lib", "/usr/local/sbin",
    "/usr/local/share", "/usr/local/src", "/usr/share/doc", "/usr/share/man", "/var/backups",
    "/var/cache", "/var/lib", "/var/local", "/var/log", "/var/mail", "/var/opt", "/var/spool",
    "/var/tmp"]

/-- 動いている program の実行 file。 -/
def programPath : String := "/usr/local/bin/tank-drive-runtime"

/-- 標準的な計算機にある symbolic link と、それが指す先。 -/
def standardLinks : List (String × String) :=
  [("/bin", "/usr/bin"), ("/sbin", "/usr/sbin"), ("/lib", "/usr/lib"), ("/lib64", "/usr/lib64"),
    ("/var/run", "/run"), ("/var/lock", "/run/lock"), ("/etc/os-release", "/usr/lib/os-release"),
    ("/dev/fd", "/proc/self/fd"), ("/dev/stdin", "/proc/self/fd/0"),
    ("/dev/stdout", "/proc/self/fd/1"), ("/dev/stderr", "/proc/self/fd/2"),
    ("/proc/self/cwd", "/tmp"), ("/proc/self/root", "/"), ("/proc/self/exe", programPath)]

/-- 標準的な計算機にある、端末でない装置。 -/
def standardDevices : List String :=
  ["/dev/null", "/dev/zero", "/dev/full", "/dev/random", "/dev/urandom", "/proc/self/fd/0",
    "/proc/self/fd/1", "/proc/self/fd/2"]

/-- 標準的な計算機にある文字の file と、その先頭。設定として読むと先頭の文字で誤りになる。 -/
def standardTexts : List (String × String) :=
  [("/etc/passwd", "root:x:0:0:root:/root:/bin/bash\n"), ("/etc/group", "root:x:0:\n"),
    ("/etc/shells", "# /etc/shells: valid login shells\n"),
    ("/etc/hosts", "127.0.0.1\tlocalhost\n"), ("/etc/hostname", "localhost\n"),
    ("/usr/lib/os-release", "PRETTY_NAME=\"Debian GNU/Linux\"\n")]

/-- 標準的な計算機にある実行 file の名前（`/usr/bin` の中）。 -/
def standardPrograms : List String :=
  ["sh", "bash", "dash", "cat", "chmod", "chown", "cp", "date", "echo", "env", "false", "grep",
    "head", "hostname", "id", "kill", "ln", "ls", "mkdir", "mv", "pwd", "rm", "sed", "sleep",
    "sort", "tail", "tar", "touch", "true", "uname", "whoami"]

/-- 試験台の計算機の、symbolic link を除いた絶対 path の種類。`@CONFIG@` と `@DIR@` は
作業ディレクトリ `/tmp` の中にある。 -/
def standardEntry (config : Option String) (names : List String) : Entry :=
  let q := absolutePath names
  match names, config with
  | ["tmp", "@CONFIG@"], some text => .file (.text text)
  | ["tmp", "@DIR@"], _ => .directory
  | ["usr", "bin", p], _ => if standardPrograms.contains p then .file .binary else .missing
  | _, _ =>
    if q = programPath then .file .running
    else if standardDirectories.contains q then .directory
    else if standardDevices.contains q then .device
    else match standardTexts.lookup q with
      | some text => .file (.text text)
      | none => .missing

/-- symbolic link なら指す先の名前の並びに置き換える。 -/
def resolveLink (names : List String) : List String :=
  match standardLinks.lookup (absolutePath names) with
  | some target => (target.splitOn "/").filter (· ≠ "")
  | none => names

/-! ## 辿り方 -/

/-- path を `/` で区切った部分。続いた `/` の間の空の部分は除く。 -/
def components (p : String) : List String := (p.splitOn "/").filter (· ≠ "")

/-- 一つの名前の長さの上限（byte）。 -/
def nameMax : Nat := 255

/-- path 全体の長さの上限。これ以上の byte 数の path は長すぎる。 -/
def pathMax : Nat := 4096

/-- ディレクトリ `here` から名前の並びを辿った先の種類。`here` はいつもディレクトリ。 -/
def walk (entry : List String → Entry) (here : List String) : List String → Entry
  | [] => entry here
  | "." :: rest => walk entry here rest
  | ".." :: rest => walk entry here.dropLast rest
  | c :: rest =>
    if c.utf8ByteSize > nameMax then .nameTooLong
    else
      let next := resolveLink (here ++ [c])
      match rest, entry next with
      | [], e => e
      | _, .directory => walk entry next rest
      | _, .missing => .missing
      | _, _ => .belowFile

/-- 作業ディレクトリ。 -/
def workingDirectory : List String := ["tmp"]

/-- 引数の置き換え文字を、作業ディレクトリの中の同じ名前の絶対 path にする。 -/
def expandPlaceholders (p : String) : String :=
  ["@CONFIG@", "@DIR@", "@MISSING@"].foldl
    (fun q name => q.replace name (absolutePath (workingDirectory ++ [name]))) p

/-- 試験台のファイル。`config` は設定の file の中身。 -/
def Files.bench (config : Option String) : Files where
  lookup raw :=
    let p := expandPlaceholders raw
    let start := if p.startsWith "/" then [] else workingDirectory
    if p.contains '\x00' then .nulInName
    else if p.isEmpty then .missing
    else if p.utf8ByteSize ≥ pathMax then .nameTooLong
    else
      match walk (standardEntry config) start (components p) with
      | .directory => .directory
      | .missing => .missing
      | .nameTooLong => .nameTooLong
      | e => if p.endsWith "/" then .belowFile else e

/-- serial 端末として開いた結果。失敗なら OS の説明。 -/
def Files.openTerminal (fs : Files) (p : String) : Except String Unit :=
  match fs.lookup p with
  | .missing => .error "No such file or directory"
  | .directory => .error "Is a directory"
  | .file .running => .error "Text file busy"
  | .file _ => .error "Not a typewriter"
  | .device => .error "Not a typewriter"
  | .terminal => .ok ()
  | .belowFile => .error "Not a directory"
  | .nameTooLong => .error "File name too long"
  | .nulInName => .error "Invalid argument"

/-- file として読んだ結果。失敗なら誤りの説明（OS の誤りなら誤り番号つき）。 -/
def Files.read (fs : Files) (p : String) : Except String String :=
  match fs.lookup p with
  | .missing => .error "No such file or directory (os error 2)"
  | .directory => .error "Is a directory (os error 21)"
  | .file (.text text) => .ok text
  | .file .binary | .file .running => .error "stream did not contain valid UTF-8"
  | .device => .ok ""
  | .terminal => .ok ""
  | .belowFile => .error "Not a directory (os error 20)"
  | .nameTooLong => .error "File name too long (os error 36)"
  | .nulInName => .error "file name contained an unexpected NUL byte"

end TankDrive.Bench
