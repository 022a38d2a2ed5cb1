import PawnScope.Disk

/-! # Sample workspaces

Generated workspaces of headers that include each other in a chain, for measurements and tests.
The same shape always gives the same files. -/

namespace PawnScope

/-- The shape of a sample workspace. -/
structure Sample where
  fileCount : Nat
  functionsPerFile : Nat
  includeChainDepth : Nat
  definesPerFile : Nat
  extraLinesPerFile : Nat
  deriving DecidableEq, Repr, Inhabited

namespace Sample

def small : Sample := ⟨10, 5, 3, 2, 5⟩

def medium : Sample := ⟨50, 10, 10, 4, 10⟩

def large : Sample := ⟨200, 20, 50, 8, 20⟩

/-- The headers of the standard library that the files include in turn. -/
def builtinHeaders : List String := ["sdktools", "sdkhooks", "clientprefs", "cstrike", "regex"]

def headerName (i : Nat) : String := "file_" ++ i.repr ++ ".inc"

/-- The file that includes the head of the chain. -/
def pluginName : String := "plugin.sp"

/-- The include lines of header `i`. The chain goes on up to its depth and the last file. -/
def includeLines (s : Sample) (i : Nat) : List String :=
  ("#include <" ++ (builtinHeaders[i % builtinHeaders.length]?).getD "" ++ ">") ::
    if i < s.includeChainDepth ∧ i + 1 < s.fileCount then
      ["#include \"file_" ++ (i + 1).repr ++ "\""]
    else []

def defineLine (i k : Nat) : String :=
  "#define FILE_" ++ i.repr ++ "_LIMIT_" ++ k.repr ++ " " ++ (k * 8).repr

def functionLines (i k : Nat) : List String :=
  ["/**",
   " * Generated helper " ++ k.repr ++ " of file " ++ i.repr ++ ".",
   " */",
   "stock int Func_" ++ i.repr ++ "_" ++ k.repr ++ "(int x, int y = " ++ (k + 1).repr ++ ")",
   "\x7b",
   "    int result = x + y * " ++ (k + 1).repr ++ ";",
   "    if (result < 0) \x7b",
   "        return 0;",
   "    \x7d",
   "    return result;",
   "\x7d",
   ""]

def methodmapLines (i : Nat) : List String :=
  ["methodmap Handle_" ++ i.repr ++ " < Handle",
   "\x7b",
   "    public native void Close_" ++ i.repr ++ "();",
   "\x7d",
   ""]

def extraLine (i k : Nat) : String :=
  "int g_Var_" ++ i.repr ++ "_" ++ k.repr ++ " = " ++ (k + 1).repr ++ ";"

/-- The lines of header `i`. -/
def headerLines (s : Sample) (i : Nat) : List String :=
  s.includeLines i ++ [""] ++ (List.range s.definesPerFile).map (defineLine i) ++ [""] ++
    (List.range s.functionsPerFile).flatMap (functionLines i) ++ methodmapLines i ++
    (List.range s.extraLinesPerFile).map (extraLine i)

def pluginLines (s : Sample) : List String :=
  (if 0 < s.fileCount then ["#include \"file_0\""] else []) ++
    ["", "public void OnPluginStart()", "\x7b", "\x7d"]

/-- Every line is ended by a line feed. -/
def textOfLines (lines : List String) : String := String.join (lines.map (· ++ "\n"))

/-- The files of a workspace with their texts: the headers and the plugin. -/
def files (s : Sample) : List (String × String) :=
  (List.range s.fileCount).map (fun i => (headerName i, textOfLines (s.headerLines i))) ++
    [(pluginName, textOfLines s.pluginLines)]

/-- Writes the files into a directory. -/
def write (s : Sample) (disk : Disk) (directory : Path) : Disk :=
  s.files.foldl
    (fun d f => d.writeFile (directory.join (Path.ofString f.1)) (.file (some f.2)))
    (disk.makeDir directory)

end Sample

end PawnScope
