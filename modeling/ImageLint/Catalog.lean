-- The built-in rules, in the order they run and are reported in.
import ImageLint.Rules.BaseImage
import ImageLint.Rules.Commands
import ImageLint.Rules.Copies
import ImageLint.Rules.Custom
import ImageLint.Rules.Directives
import ImageLint.Rules.ExclusionFile
import ImageLint.Rules.Packages

namespace ImageLint

structure Rule where
  ruleId : Text
  check : Check

variable [Characters]

def catalog : List Rule := [
  ⟨"exclusion_file", Rules.exclusionFile⟩,
  ⟨"exclusion_coverage", Rules.exclusionCoverage⟩,
  ⟨"base_image_weight", Rules.baseImageWeight⟩,
  ⟨"base_image_tag", Rules.baseImageTag⟩,
  ⟨"workdir_missing", Rules.workdirMissing⟩,
  ⟨"install_recommends", Rules.installRecommends⟩,
  ⟨"package_cache_cleanup", Rules.packageCacheCleanup⟩,
  ⟨"update_install_split", Rules.updateInstallSplit⟩,
  ⟨"apk_virtual_deps", Rules.apkVirtualDeps⟩,
  ⟨"temp_file_cleanup", Rules.tempFileCleanup⟩,
  ⟨"run_count", Rules.runCount⟩,
  ⟨"multi_stage", Rules.multiStage⟩,
  ⟨"copy_whole_context", Rules.copyWholeContext⟩,
  ⟨"copy_unnecessary_files", Rules.copyUnnecessaryFiles⟩,
  ⟨"label_missing", Rules.labelMissing⟩,
  ⟨"expose_missing", Rules.exposeMissing⟩,
  ⟨"healthcheck_missing", Rules.healthcheckMissing⟩,
  ⟨"root_user", Rules.rootUser⟩,
  ⟨"add_instead_of_copy", Rules.addInsteadOfCopy⟩,
  ⟨"unparsed_line", Rules.unparsedLine⟩]

end ImageLint
