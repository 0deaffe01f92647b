import PassPlan.Pipeline.Read
/-!
The default pipelines: the global conversion and optimisation flows and the Vivado, Vitis and
Vitis accelerator backends, as the texts of their pipeline files.
-/
namespace PassPlan.Pipeline

/-- The text of global.yaml. -/
def globalText : String :=
    "# Backend-independent flows. Flows here live in the global namespace and are\n" ++
    "# referenced by bare name (\"convert\", \"optimize\").\n" ++
    "description: Backend-independent model conversion and optimization\n" ++
    "\n" ++
    "passes:\n" ++
    "  - \x7bname: channels_last_converter, kind: stamp, with: \x7bkey: data_format, value: channels_last\x7d\x7d\n" ++
    "  - \x7bname: fuse_bias_add, kind: noop\x7d\n" ++
    "  - \x7bname: remove_nop_transpose, kind: prune, with: \x7bop: Transpose\x7d\x7d\n" ++
    "  - \x7bname: output_rounding_saturation_mode, kind: annotate, with: \x7bkey: rounding, value: AP_RND\x7d\x7d\n" ++
    "  - \x7bname: fuse_consecutive_batch_normalization, kind: noop\x7d\n" ++
    "  - \x7bname: eliminate_linear_activation, kind: prune, with: \x7bop: Linear\x7d\x7d\n" ++
    "  - \x7bname: remove_nop_batch_normalization, kind: noop\x7d\n" ++
    "  - \x7bname: infer_precision_types, kind: stamp, with: \x7bkey: precision_inferred, value: true\x7d\x7d\n" ++
    "  - \x7bname: set_precision_concat, kind: noop\x7d\n" ++
    "  - \x7bname: make_stamp, kind: stamp, with: \x7bkey: stamp, value: passflow\x7d\x7d\n" ++
    "\n" ++
    "flows:\n" ++
    "  - name: convert\n" ++
    "    passes:\n" ++
    "      - channels_last_converter\n" ++
    "      - fuse_bias_add\n" ++
    "      - remove_nop_transpose\n" ++
    "      - output_rounding_saturation_mode\n" ++
    "      - fuse_consecutive_batch_normalization\n" ++
    "  - name: optimize\n" ++
    "    passes:\n" ++
    "      - eliminate_linear_activation\n" ++
    "      - remove_nop_batch_normalization\n" ++
    "      - infer_precision_types\n" ++
    "      - set_precision_concat\n" ++
    "    requires: [convert]\n"

/-- The text of vitis.yaml. -/
def vitisText : String :=
    "backend: Vitis\n" ++
    "parent: Vivado\n" ++
    "description: Vitis HLS\n" ++
    "default_flow: ip\n" ++
    "writer_flow: write\n" ++
    "\n" ++
    "passes:\n" ++
    "  - \x7bname: \"vitis:validate_conv_implementation\", kind: require_attr, with: \x7bscope: node, op: Conv2D, key: implementation\x7d\x7d\n" ++
    "  - \x7bname: \"vitis:validate_resource_strategy\", kind: require_attr, with: \x7bscope: node, op: Dense, key: strategy\x7d\x7d\n" ++
    "  - \x7bname: \"vitis:validate_resource_unrolled_strategy\", kind: noop\x7d\n" ++
    "  - \x7bname: \"vitis:template:dense\", kind: annotate, with: \x7bop: Dense, key: template, value: vitis_dense\x7d\x7d\n" ++
    "  - \x7bname: \"vitis:template:conv2d\", kind: annotate, with: \x7bop: Conv2D, key: template, value: vitis_conv2d\x7d\x7d\n" ++
    "  - \x7bname: \"vitis:write_hls\", kind: stamp, with: \x7bkey: writer, value: vitis\x7d\x7d\n" ++
    "\n" ++
    "flows:\n" ++
    "  - name: validation\n" ++
    "    passes: [\"vitis:validate_conv_implementation\", \"vitis:validate_resource_strategy\", \"vitis:validate_resource_unrolled_strategy\"]\n" ++
    "    requires: [\"vivado:init_layers\"]\n" ++
    "  - name: apply_templates\n" ++
    "    passes_from: \"vitis:template:\"\n" ++
    "    requires: [\"vivado:init_layers\"]\n" ++
    "  - name: ip\n" ++
    "    derive_from: \"vivado:ip\"\n" ++
    "    insert:\n" ++
    "      - \x7bbefore: \"vivado:init_layers\", flow: \"vitis:validation\"\x7d\n" ++
    "      - \x7bbefore: \"vivado:apply_templates\", flow: \"vitis:apply_templates\"\x7d\n" ++
    "  - name: write\n" ++
    "    passes: [make_stamp, \"vitis:write_hls\"]\n" ++
    "    requires: [\"vitis:ip\"]\n"

/-- The text of vitisaccelerator.yaml. -/
def vitisacceleratorText : String :=
    "backend: VitisAccelerator\n" ++
    "parent: Vitis\n" ++
    "description: Vitis accelerator kernels for Alveo and embedded platforms\n" ++
    "default_flow: ip\n" ++
    "writer_flow: write\n" ++
    "\n" ++
    "passes:\n" ++
    "  - \x7bname: \"vitisaccelerator:validate_conv_implementation\", kind: require_attr, with: \x7bscope: node, op: Conv2D, key: implementation\x7d\x7d\n" ++
    "  - \x7bname: \"vitisaccelerator:validate_strategy\", kind: require_attr, with: \x7bscope: node, op: Dense, key: strategy\x7d\x7d\n" ++
    "  - \x7bname: \"vitisaccelerator:template:kernel_wrapper\", kind: stamp, with: \x7bkey: kernel_wrapper, value: io_stream\x7d\x7d\n" ++
    "  - \x7bname: \"vitisaccelerator:template:host\", kind: stamp, with: \x7bkey: host, value: opencl\x7d\x7d\n" ++
    "  - \x7bname: \"vitisaccelerator:write_hls\", kind: stamp, with: \x7bkey: writer, value: vitisaccelerator\x7d\x7d\n" ++
    "\n" ++
    "flows:\n" ++
    "  - name: validation\n" ++
    "    passes: [\"vitisaccelerator:validate_conv_implementation\", \"vitisaccelerator:validate_strategy\"]\n" ++
    "    requires: [\"vivado:init_layers\"]\n" ++
    "  - name: apply_templates\n" ++
    "    passes_from: \"vitisaccelerator:template:\"\n" ++
    "    requires: [\"vivado:init_layers\"]\n" ++
    "  - name: ip\n" ++
    "    derive_from: \"vivado:ip\"\n" ++
    "    insert:\n" ++
    "      - \x7bbefore: \"vivado:init_layers\", flow: \"vitisaccelerator:validation\"\x7d\n" ++
    "      - \x7bbefore: \"vivado:apply_templates\", flow: \"vitisaccelerator:apply_templates\"\x7d\n" ++
    "  - name: write\n" ++
    "    passes: [make_stamp, \"vitisaccelerator:write_hls\"]\n" ++
    "    requires: [\"vitisaccelerator:ip\"]\n"

/-- The text of vivado.yaml. -/
def vivadoText : String :=
    "backend: Vivado\n" ++
    "description: Vivado HLS\n" ++
    "default_flow: ip\n" ++
    "writer_flow: write\n" ++
    "\n" ++
    "passes:\n" ++
    "  # layer initializers\n" ++
    "  - \x7bname: \"vivado:init_dense\", kind: annotate, with: \x7bop: Dense, key: strategy, value: latency\x7d\x7d\n" ++
    "  - \x7bname: \"vivado:init_conv2d\", kind: annotate, with: \x7bop: Conv2D, key: implementation, value: linebuffer\x7d\x7d\n" ++
    "  - \x7bname: \"vivado:init_activation\", kind: annotate, with: \x7bop: Activation, key: table_size, value: 1024\x7d\x7d\n" ++
    "  # streaming\n" ++
    "  - \x7bname: \"vivado:reshape_stream\", kind: noop\x7d\n" ++
    "  - \x7bname: \"vivado:clone_output\", kind: noop\x7d\n" ++
    "  - \x7bname: \"vivado:insert_zero_padding_before_conv\", kind: noop\x7d\n" ++
    "  - \x7bname: \"vivado:broadcast_stream\", kind: noop\x7d\n" ++
    "  # quantization\n" ++
    "  - \x7bname: \"vivado:merge_batch_norm_quantized_tanh\", kind: noop\x7d\n" ++
    "  - \x7bname: \"vivado:quantize_dense_output\", kind: noop\x7d\n" ++
    "  - \x7bname: \"vivado:xnor_pooling\", kind: noop\x7d\n" ++
    "  # optimization\n" ++
    "  - \x7bname: \"vivado:remove_final_reshape\", kind: prune, with: \x7bop: Reshape\x7d\x7d\n" ++
    "  - \x7bname: \"vivado:optimize_pointwise_conv\", kind: noop\x7d\n" ++
    "  - \x7bname: \"vivado:skip_softmax\", kind: noop\x7d\n" ++
    "  - \x7bname: \"vivado:fix_softmax_table_size\", kind: annotate, with: \x7bop: Softmax, key: table_size, value: 1024\x7d\x7d\n" ++
    "  # backend types\n" ++
    "  - \x7bname: \"vivado:transform_types\", kind: noop\x7d\n" ++
    "  - \x7bname: \"vivado:register_bram_weights\", kind: noop\x7d\n" ++
    "  - \x7bname: \"vivado:apply_resource_strategy\", kind: noop\x7d\n" ++
    "  - \x7bname: \"vivado:generate_conv_im2col\", kind: noop\x7d\n" ++
    "  # templates\n" ++
    "  - \x7bname: \"vivado:template:dense\", kind: annotate, with: \x7bop: Dense, key: template, value: vivado_dense\x7d\x7d\n" ++
    "  - \x7bname: \"vivado:template:conv2d\", kind: annotate, with: \x7bop: Conv2D, key: template, value: vivado_conv2d\x7d\x7d\n" ++
    "  - \x7bname: \"vivado:template:activation\", kind: annotate, with: \x7bop: Activation, key: template, value: vivado_activation\x7d\x7d\n" ++
    "  # writers\n" ++
    "  - \x7bname: \"vivado:fifo_depth_optimization\", kind: noop\x7d\n" ++
    "  - \x7bname: \"vivado:write_hls\", kind: stamp, with: \x7bkey: writer, value: vivado\x7d\x7d\n" ++
    "\n" ++
    "flows:\n" ++
    "  - name: init_layers\n" ++
    "    passes: [\"vivado:init_dense\", \"vivado:init_conv2d\", \"vivado:init_activation\"]\n" ++
    "    requires: [optimize]\n" ++
    "  - name: streaming\n" ++
    "    passes: [\"vivado:reshape_stream\", \"vivado:clone_output\", \"vivado:insert_zero_padding_before_conv\", \"vivado:broadcast_stream\"]\n" ++
    "    requires: [\"vivado:init_layers\"]\n" ++
    "  - name: quantization\n" ++
    "    passes: [\"vivado:merge_batch_norm_quantized_tanh\", \"vivado:quantize_dense_output\", fuse_consecutive_batch_normalization, \"vivado:xnor_pooling\"]\n" ++
    "    requires: [\"vivado:init_layers\"]\n" ++
    "  - name: optimize\n" ++
    "    passes: [\"vivado:remove_final_reshape\", \"vivado:optimize_pointwise_conv\", \"vivado:skip_softmax\", \"vivado:fix_softmax_table_size\", infer_precision_types]\n" ++
    "    requires: [\"vivado:init_layers\"]\n" ++
    "  - name: specific_types\n" ++
    "    passes: [\"vivado:transform_types\", \"vivado:register_bram_weights\", \"vivado:apply_resource_strategy\", \"vivado:generate_conv_im2col\"]\n" ++
    "    requires: [\"vivado:init_layers\"]\n" ++
    "  - name: apply_templates\n" ++
    "    passes_from: \"vivado:template:\"\n" ++
    "    requires: [\"vivado:init_layers\"]\n" ++
    "  - name: ip\n" ++
    "    requires:\n" ++
    "      - optimize\n" ++
    "      - \"vivado:init_layers\"\n" ++
    "      - \"vivado:streaming\"\n" ++
    "      - \"vivado:quantization\"\n" ++
    "      - \"vivado:optimize\"\n" ++
    "      - \"vivado:specific_types\"\n" ++
    "      - \"vivado:apply_templates\"\n" ++
    "  - name: write\n" ++
    "    passes: [make_stamp, \"vivado:write_hls\"]\n" ++
    "    requires: [\"vivado:ip\"]\n" ++
    "  - name: fifo_depth_optimization\n" ++
    "    passes: [\"vivado:fifo_depth_optimization\", make_stamp, \"vivado:write_hls\"]\n" ++
    "    requires: [\"vivado:ip\"]\n"

/-- The default pipeline files by name, in name order. -/
def defaultFiles : List (String × String) :=
  [("global.yaml", globalText), ("vitis.yaml", vitisText), ("vitisaccelerator.yaml", vitisacceleratorText), ("vivado.yaml", vivadoText)]

/-- The default pipeline files, read. -/
def embedded : Except FileError (List PipelineFile) := defaultFiles.mapM fun (n, t) => parse t n

end PassPlan.Pipeline
