namespace ScriptAudit.Settings

/-! The presets: settings files that come with the program. -/

structure Preset where
  name : String
  lines : List String

def Preset.text (preset : Preset) : String :=
  String.join (preset.lines.map (· ++ "\n"))

namespace Preset

def cmdletDesign : Preset := ⟨"CmdletDesign", [
  "@\x7b",
  "    IncludeRules = @(",
  "        'PSUseApprovedVerbs',",
  "        'PSReservedCmdletChar',",
  "        'PSReservedParams',",
  "        'PSShouldProcess',",
  "        'PSUseShouldProcessForStateChangingFunctions',",
  "        'PSUseSingularNouns',",
  "        'PSMissingModuleManifestField',",
  "        'PSAvoidDefaultValueSwitchParameter'",
  "    )",
  "\x7d"]⟩

def codeFormatting : Preset := ⟨"CodeFormatting", [
  "@\x7b",
  "    IncludeRules = @(",
  "        'PSPlaceOpenBrace',",
  "        'PSPlaceCloseBrace',",
  "        'PSUseConsistentWhitespace',",
  "        'PSUseConsistentIndentation',",
  "        'PSAlignAssignmentStatement',",
  "        'PSUseCorrectCasing'",
  "    )",
  "",
  "    Rules        = @\x7b",
  "        PSPlaceOpenBrace           = @\x7b",
  "            Enable             = $true",
  "            OnSameLine         = $true",
  "            NewLineAfter       = $true",
  "            IgnoreOneLineBlock = $true",
  "        \x7d",
  "",
  "        PSPlaceCloseBrace          = @\x7b",
  "            Enable             = $true",
  "            NewLineAfter       = $false",
  "            IgnoreOneLineBlock = $true",
  "            NoEmptyLineBefore  = $false",
  "        \x7d",
  "",
  "        PSUseConsistentIndentation = @\x7b",
  "            Enable              = $true",
  "            Kind                = 'space'",
  "            PipelineIndentation = 'IncreaseIndentationForFirstPipeline'",
  "            IndentationSize     = 4",
  "        \x7d",
  "",
  "        PSUseConsistentWhitespace  = @\x7b",
  "            Enable                          = $true",
  "            CheckInnerBrace                 = $true",
  "            CheckOpenBrace                  = $true",
  "            CheckOpenParen                  = $true",
  "            CheckOperator                   = $true",
  "            CheckPipe                       = $true",
  "            CheckPipeForRedundantWhitespace = $false",
  "            CheckSeparator                  = $true",
  "            CheckParameter                  = $false",
  "        \x7d",
  "",
  "        PSAlignAssignmentStatement = @\x7b",
  "            Enable         = $true",
  "            CheckHashtable = $true",
  "        \x7d",
  "",
  "        PSUseCorrectCasing         = @\x7b",
  "            Enable = $true",
  "        \x7d",
  "    \x7d",
  "\x7d"]⟩

def codeFormattingOTBS : Preset := ⟨"CodeFormattingOTBS", [
  "@\x7b",
  "    IncludeRules = @(",
  "        'PSPlaceOpenBrace',",
  "        'PSPlaceCloseBrace',",
  "        'PSUseConsistentWhitespace',",
  "        'PSUseConsistentIndentation',",
  "        'PSAlignAssignmentStatement',",
  "        'PSUseCorrectCasing'",
  "    )",
  "",
  "    Rules        = @\x7b",
  "        PSPlaceOpenBrace           = @\x7b",
  "            Enable             = $true",
  "            OnSameLine         = $true",
  "            NewLineAfter       = $true",
  "            IgnoreOneLineBlock = $true",
  "        \x7d",
  "",
  "        PSPlaceCloseBrace          = @\x7b",
  "            Enable             = $true",
  "            NewLineAfter       = $false",
  "            IgnoreOneLineBlock = $true",
  "            NoEmptyLineBefore  = $false",
  "        \x7d",
  "",
  "        PSUseConsistentIndentation = @\x7b",
  "            Enable          = $true",
  "            Kind            = 'space'",
  "            IndentationSize = 4",
  "        \x7d",
  "",
  "        PSUseConsistentWhitespace  = @\x7b",
  "            Enable         = $true",
  "            CheckOpenBrace = $true",
  "            CheckOpenParen = $true",
  "            CheckOperator  = $true",
  "            CheckSeparator = $true",
  "        \x7d",
  "",
  "        PSAlignAssignmentStatement = @\x7b",
  "            Enable         = $true",
  "            CheckHashtable = $true",
  "        \x7d",
  "",
  "        PSUseCorrectCasing         = @\x7b",
  "            Enable = $true",
  "        \x7d",
  "    \x7d",
  "\x7d"]⟩

def dsc : Preset := ⟨"DSC", [
  "@\x7b",
  "    IncludeRules = @('PSDSC*')",
  "\x7d"]⟩

def psGallery : Preset := ⟨"PSGallery", [
  "# Rules enforced when publishing to the PowerShell Gallery.",
  "@\x7b",
  "    Severity     = @('Error', 'Warning')",
  "    ExcludeRules = @('PSUseToExportFieldsInManifest')",
  "\x7d"]⟩

def scriptFunctions : Preset := ⟨"ScriptFunctions", [
  "@\x7b",
  "    IncludeRules = @(",
  "        'PSAvoidUsingCmdletAliases',",
  "        'PSAvoidUsingWMICmdlet',",
  "        'PSAvoidUsingEmptyCatchBlock',",
  "        'PSUseCmdletCorrectly',",
  "        'PSUseShouldProcessForStateChangingFunctions',",
  "        'PSAvoidUsingPositionalParameters',",
  "        'PSAvoidGlobalVars',",
  "        'PSUseDeclaredVarsMoreThanAssignments',",
  "        'PSAvoidUsingInvokeExpression'",
  "    )",
  "\x7d"]⟩

def scriptSecurity : Preset := ⟨"ScriptSecurity", [
  "@\x7b",
  "    IncludeRules = @(",
  "        'PSAvoidUsingPlainTextForPassword',",
  "        'PSAvoidUsingComputerNameHardcoded',",
  "        'PSAvoidUsingConvertToSecureStringWithPlainText',",
  "        'PSUsePSCredentialType',",
  "        'PSAvoidUsingUsernameAndPasswordParams',",
  "        'PSAvoidUsingInvokeExpression'",
  "    )",
  "\x7d"]⟩

def scriptingStyle : Preset := ⟨"ScriptingStyle", [
  "@\x7b",
  "    IncludeRules = @(",
  "        'PSProvideCommentHelp',",
  "        'PSAvoidUsingWriteHost',",
  "        'PSAvoidUsingCmdletAliases',",
  "        'PSUseApprovedVerbs',",
  "        'PSUseSingularNouns',",
  "        'PSReservedCmdletChar',",
  "        'PSReservedParams',",
  "        'PSAvoidDefaultValueSwitchParameter'",
  "    )",
  "\x7d"]⟩

/-- The presets in the order of their names. -/
def all : List Preset :=
  [cmdletDesign, codeFormatting, codeFormattingOTBS, dsc,
    psGallery, scriptFunctions, scriptSecurity, scriptingStyle]

end Preset
end ScriptAudit.Settings
